import CompilerRelay.Toolbox.Program

/-!
Paths and what they lead to.

The tree of files is known in part: the directories and files that every system
of this kind has, and the programs of the toolbox.  A path is walked name by
name from a directory; an empty name and a single point stay where they are,
two points lead to the directory above, and some names stand for other paths.
-/

namespace CompilerRelay
namespace Toolbox

/-- What a path leads to. -/
inductive File where
  | directory
  /-- A file that can be started, with the name of the program. -/
  | program (name : List Char)
  /-- A file with contents that are not known. -/
  | plain
  /-- A file that a command made. -/
  | made (contents : List Char)
  /-- The device that takes everything and gives nothing. -/
  | nothing
  /-- A stream of the program that asks. -/
  | stream (number : Nat)
  /-- Some other device. -/
  | device
  deriving DecidableEq, Repr

/-- Why a path leads nowhere, or a file cannot be used. -/
inductive PathFault where
  | missing
  | noDirectory
  | tooLong
  | denied
  | isDirectory
  deriving DecidableEq, Repr

namespace PathFault

def message : PathFault → String
  | missing => "No such file or directory"
  | noDirectory => "Not a directory"
  | tooLong => "File name too long"
  | denied => "Permission denied"
  | isDirectory => "Is a directory"

def number : PathFault → Nat
  | missing => 2
  | noDirectory => 20
  | tooLong => 36
  | denied => 13
  | isDirectory => 21

/-- The wording with the number. -/
def account (fault : PathFault) : String :=
  fault.message ++ " (os error " ++ toString fault.number ++ ")"

end PathFault

/-- A path from the root: its names, the last one first. -/
abbrev Place := List (List Char)

namespace Place

/-- The names of a path, without the empty ones. -/
def names (path : List Char) : List (List Char) :=
  (go path).filter (!·.isEmpty)
where
  go : List Char → List (List Char)
    | [] => [[]]
    | '/' :: rest => [] :: go rest
    | c :: rest =>
      match go rest with
      | [] => [[c]]
      | name :: others => (c :: name) :: others

def text (place : Place) : List Char :=
  match place.reverse with
  | [] => ['/']
  | names => names.flatMap ('/' :: ·)

def ofString (path : String) : Place :=
  (names path.toList).reverse

end Place

/-- The directories that are known. -/
def knownDirectories : List String :=
  ["/boot", "/dev", "/dev/fd", "/dev/pts", "/dev/shm", "/etc", "/etc/default", "/etc/init.d",
    "/etc/opt", "/etc/profile.d", "/etc/security", "/etc/skel", "/etc/ssl", "/etc/ssl/certs",
    "/home", "/media", "/mnt", "/opt", "/proc", "/proc/self", "/proc/sys", "/root", "/run",
    "/run/lock", "/srv", "/sys", "/tmp", "/usr", "/usr/bin", "/usr/games", "/usr/include",
    "/usr/lib", "/usr/lib64", "/usr/local", "/usr/local/bin", "/usr/local/etc",
    "/usr/local/games", "/usr/local/include", "/usr/local/lib", "/usr/local/sbin",
    "/usr/local/share", "/usr/local/src", "/usr/sbin", "/usr/share", "/usr/share/doc",
    "/usr/src", "/var", "/var/backups", "/var/cache", "/var/lib", "/var/local", "/var/log",
    "/var/mail", "/var/opt", "/var/spool", "/var/tmp"]

/-- The files that are known and cannot be started. -/
def knownFiles : List String :=
  ["/etc/debian_version", "/etc/fstab", "/etc/group", "/etc/gshadow", "/etc/host.conf",
    "/etc/hostname", "/etc/hosts", "/etc/issue", "/etc/ld.so.cache", "/etc/ld.so.conf",
    "/etc/login.defs", "/etc/nsswitch.conf", "/etc/os-release", "/etc/pam.conf", "/etc/passwd",
    "/etc/profile", "/etc/resolv.conf", "/etc/shadow", "/etc/shells", "/etc/subgid",
    "/etc/subuid", "/proc/cpuinfo", "/proc/filesystems", "/proc/loadavg", "/proc/meminfo",
    "/proc/mounts", "/proc/self/cmdline", "/proc/self/environ", "/proc/self/status",
    "/proc/stat", "/proc/uptime", "/proc/version"]

/-- The devices that are known. -/
def knownDevices : List (String × File) :=
  [("/dev/null", .nothing), ("/dev/stdin", .stream 0), ("/dev/stdout", .stream 1),
    ("/dev/stderr", .stream 2), ("/dev/fd/0", .stream 0), ("/dev/fd/1", .stream 1),
    ("/dev/fd/2", .stream 2), ("/dev/full", .device), ("/dev/ptmx", .device),
    ("/dev/random", .device), ("/dev/tty", .device), ("/dev/urandom", .device),
    ("/dev/zero", .device)]

/-- The names that stand for other paths. -/
def knownLinks : List (String × String) :=
  [("/bin", "/usr/bin"), ("/lib", "/usr/lib"), ("/lib64", "/usr/lib64"), ("/sbin", "/usr/sbin"),
    ("/var/lock", "/run/lock"), ("/var/run", "/run")]

/-- The programs of the toolbox; all lie in one directory. -/
def programNames : List String :=
  ["[", "cat", "dash", "echo", "false", "head", "printf", "pwd", "sed", "sh", "sleep", "test",
    "true"]

/-- The directories in which programs are looked for. -/
def searchPath : String :=
  "/usr/local/sbin:/usr/local/bin:/usr/sbin:/usr/bin:/sbin:/bin"

namespace Place

/-- The place that a place stands for. -/
def followed (place : Place) : Place :=
  let path := String.ofList place.text
  (knownLinks.lookup path).elim place ofString

/-- What lies at a place that nobody changed. -/
def known? (place : Place) : Option File :=
  let path := String.ofList place.text
  match place with
  | [] => some .directory
  | name :: directory =>
    if knownDirectories.contains path then some .directory
    else if knownFiles.contains path then some .plain
    else if directory = ofString "/usr/bin" ∧ programNames.contains (String.ofList name) then
      some (.program name)
    else knownDevices.lookup path

end Place

/-- How long a name and a path may be. -/
def nameLimit : Nat := 255

def pathLimit : Nat := 4095

/-- Whether a path can lead to a directory only. -/
def endsInSlash (path : List Char) : Bool :=
  path.getLast? == some '/'

/-- The directory a program is in, and the files that were made. -/
structure Site where
  place : Place
  made : List (Place × List Char) := []

namespace Site

/-- The root, before any file was made. -/
def root : Site :=
  { place := [] }

/-- What lies at a place. -/
def file? (site : Site) (place : Place) : Option File :=
  match site.made.lookup place with
  | some contents => some (.made contents)
  | none => place.known?

/-- Walk along names from a place. -/
def walk (site : Site) (place : Place) : List (List Char) → Except PathFault (Place × File)
  | [] => ((site.file? place).elim (.error .missing) fun file => .ok (place, file))
  | name :: rest =>
    match site.file? place with
    | none => .error .missing
    | some .directory =>
      if name = ['.'] then walk site place rest
      else if name = ['.', '.'] then walk site (place.drop 1) rest
      else if nameLimit < name.length then .error .tooLong
      else walk site (Place.followed (name :: place)) rest
    | some _ => .error .noDirectory

/-- The place and the file that a path leads to. -/
def resolve (site : Site) (path : List Char) : Except PathFault (Place × File) :=
  if path.isEmpty then .error .missing
  else if pathLimit < path.length then .error .tooLong
  else do
    let found ← site.walk (if path.head? = some '/' then [] else site.place) (Place.names path)
    if endsInSlash path ∧ found.2 ≠ .directory then throw .noDirectory
    return found

/-- The directory that a path leads to. -/
def directory (site : Site) (path : List Char) : Except PathFault Place := do
  let found ← site.resolve path
  if found.2 = .directory then return found.1 else throw .noDirectory

/-- The place where a path leads to or would lead to if its last name were there;
that name is no directory. -/
def placeFor (site : Site) (path : List Char) : Except PathFault Place := do
  match site.resolve path with
  | .ok (_, .directory) => throw .isDirectory
  | .ok found => return found.1
  | .error .missing => do
    let name := (path.reverse.takeWhile (· != '/')).reverse
    let above := path.take (path.length - name.length)
    if name.isEmpty then throw .missing
    let directory ← if above.isEmpty then pure site.place else site.directory above
    return Place.followed (name :: directory)
  | .error fault => throw fault

/-- The name of the program that a path leads to. -/
def program (site : Site) (path : List Char) : Except PathFault (List Char) := do
  match (← site.resolve path).2 with
  | .program name => return name
  | _ => throw .denied

/-- The program with a name in one of several directories.  A file that cannot be
started is told only if no other is found. -/
def search (site : Site) (name : List Char) : List (List Char) → Except PathFault (List Char)
  | [] => .error .missing
  | directory :: rest =>
    let path := if directory.isEmpty then name else directory ++ '/' :: name
    match site.program path, search site name rest with
    | .ok found, _ => .ok found
    | .error .denied, .error .missing => .error .denied
    | _, others => others

/-- The program that a command names: by its path, or by its name alone. -/
def find (site : Site) (path command : List Char) : Except PathFault (List Char) :=
  if command.contains '/' then site.program command
  else if command.isEmpty then .error .missing
  else if nameLimit < command.length then .error .tooLong
  else site.search command (cutPath path)
where
  cutPath : List Char → List (List Char)
    | [] => [[]]
    | ':' :: rest => [] :: cutPath rest
    | c :: rest =>
      match cutPath rest with
      | [] => [[c]]
      | first :: others => (c :: first) :: others

end Site
end Toolbox
end CompilerRelay
