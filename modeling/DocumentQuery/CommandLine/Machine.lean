import DocumentQuery.CommandLine.Session

/-!
Machines given by value: files in a working directory, variables and a standard input.

A `Machine` answers for a path as a Unix system would whose working directory holds its files and
nothing else. A path is followed name by name, and every name but the last has to lead to a
directory. Of what lies outside of the working directory, the standard directories are known, some
files that every system has, and the standard input. `Machine.host` runs the program on a machine;
the standard input can be read once.
-/

namespace DocumentQuery.CommandLine

/-- What there is under a path. -/
inductive Node
  | directory
  | file (text : String)
  | input

/-- A machine. -/
structure Machine where
  /-- The files in the working directory: relative paths with their texts. -/
  files : List (String × String) := []
  environment : List (String × String) := []
  /-- What is still to be read from the standard input. -/
  input : Except ReadFailure String := .ok ""

namespace Machine

/-! ## Outside of the working directory -/

/-- Where the working directory lies. Its own name is not known; the empty name stands for it, which
no path has in it. -/
def workingPath : List String :=
  ["tmp", ""]

/-- The directories that are there on every system. -/
def directories : List String :=
  ["/", "/bin", "/boot", "/dev", "/dev/pts", "/dev/shm", "/etc", "/home", "/lib", "/media", "/mnt",
    "/opt", "/proc", "/proc/self", "/proc/self/fd", "/proc/sys", "/root", "/run", "/sbin", "/srv",
    "/sys", "/tmp", "/usr", "/usr/bin", "/usr/include", "/usr/lib", "/usr/local", "/usr/sbin",
    "/usr/share", "/var", "/var/cache", "/var/lib", "/var/log", "/var/spool", "/var/tmp"]

/-- Files that are there on every system, with the first lines of their texts. -/
def texts : List (String × String) :=
  [("/dev/null", ""), ("/etc/group", "root:x:0:\n"),
    ("/etc/passwd", "root:x:0:0:root:/root:/bin/sh\n"), ("/proc/cpuinfo", "processor\t: 0\n"),
    ("/proc/meminfo", "MemTotal:\n"), ("/proc/version", "Linux version\n")]

/-- Names that lead elsewhere. -/
def links : List (List String × List String) :=
  [(pathNames "/dev/stdin", pathNames "/proc/self/fd/0"),
    (pathNames "/dev/fd", pathNames "/proc/self/fd"),
    (pathNames "/proc/self/root", []),
    (pathNames "/proc/self/cwd", workingPath)]

/-- What there is outside of the working directory. -/
def outside? (path : List String) : Option Node :=
  if path = pathNames "/proc/self/fd/0" then some .input
  else if directories.any fun directory => pathNames directory = path then some .directory
  else (texts.find? fun file => pathNames file.1 = path).map fun file => .file file.2

/-! ## Paths -/

/-- What there is in the working directory. A directory in it has a file somewhere below it. -/
def inside? (machine : Machine) (path : List String) : Option Node :=
  let files := machine.files.map fun file => (pathNames file.1, file.2)
  match files.lookup path with
  | some text => some (.file text)
  | none =>
    if path.isEmpty || files.any fun file => path.isPrefixOf file.1 then some .directory else none

/-- What there is under the names from the root. -/
def node? (machine : Machine) (path : List String) : Option Node :=
  if workingPath.isPrefixOf path then machine.inside? (path.drop workingPath.length)
  else outside? path

/-- Where names lead from a directory, which is given by the names from the root. -/
def follow (machine : Machine) (path : List String) : List String → Except ReadFailure Node
  | [] => .ok .directory
  | name :: rest =>
    if name = "." then machine.follow path rest
    else if name = ".." then machine.follow path.dropLast rest
    else if longestName < name.utf8ByteSize then .error .nameTooLong
    else
      let next := path ++ [name]
      let next := (links.lookup next).getD next
      match machine.node? next with
      | none => .error .notFound
      | some .directory => machine.follow next rest
      | some node => if rest.isEmpty then .ok node else .error .notADirectory

/-- What there is under a path. Only a directory may have a slash after its name. -/
def find (machine : Machine) (path : String) : Except ReadFailure Node :=
  let characters := path.toList
  if characters.isEmpty then .error .notFound
  else if longestPath < path.utf8ByteSize then .error .nameTooLong
  else do
    let start := if characters.head? = some '/' then [] else workingPath
    match ← machine.follow start (pathNames path) with
    | .directory => .ok .directory
    | node => if characters.getLast? = some '/' then .error .notADirectory else .ok node

/-! ## The host -/

/-- Read what is left of the standard input. -/
def takeInput : StateM Machine (Except ReadFailure String) := do
  let machine ← get
  set { machine with input := .ok "" }
  return machine.input

/-- Read what there is under a path. -/
def read (path : String) : StateM Machine FileLookup := do
  match (← get).find path with
  | .error failure => return .absent failure
  | .ok .directory => return .present (.error .isADirectory)
  | .ok (.file text) => return .present (.ok text)
  | .ok .input => return .present (← takeInput)

/-- A machine as a host. -/
def host : Host (StateM Machine) where
  getVariable name := do return (← get).environment.lookup name
  read := read
  input := takeInput

/-- Run the program on a machine. -/
def run (machine : Machine) (arguments : List String) : Outcome :=
  ((CommandLine.run host arguments).run machine).1

end Machine

end DocumentQuery.CommandLine
