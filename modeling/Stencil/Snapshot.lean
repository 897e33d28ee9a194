import Stencil.Data.Tree

/-! What is known of the surroundings of a run: the environment and the process.

Both are captured once. Names and values of the environment are texts, kept in the order of the
names' bytes, one value for each name; bytes that are no text are replaced on the way in, and of
two names that become the same the later one counts. -/
namespace Stencil
open Text.Utf8 (Bytes)

/-- Variables in the order of their names. -/
abbrev Environment := List (String × String)

namespace Environment

/-- Puts a variable in its place, where it replaces one of the same name. -/
def insert (name value : String) : Environment → Environment
  | [] => [(name, value)]
  | (n, v) :: rest =>
    if name = n then (n, value) :: rest
    else if Data.keyBefore name.toList n.toList then (name, value) :: (n, v) :: rest
    else (n, v) :: insert name value rest

/-- An environment of variables, the later ones counting. -/
def ofList (entries : List (String × String)) : Environment :=
  entries.foldl (fun env v => insert v.1 v.2 env) []

/-- An environment of bytes. -/
def ofBytes (entries : List (Bytes × Bytes)) : Environment :=
  ofList (entries.map fun v => (Text.Utf8.lossyText v.1, Text.Utf8.lossyText v.2))

/-- The value of a variable. -/
def get? (env : Environment) (name : String) : Option String := env.lookup name

end Environment

/-- The name and the value in an entry of a process's environment: the name is not empty and ends
before the first equals sign behind its first byte. -/
def entryOf? (entry : Bytes) : Option (Bytes × Bytes) :=
  match entry with
  | [] => none
  | first :: rest =>
    let name := rest.takeWhile (· != 0x3D)
    if name.length < rest.length then some (first :: name, rest.drop (name.length + 1)) else none

/-- What is known of the process. -/
structure ProcessDetails where
  pid : Nat := 0
  ppid : Nat := 0
  uid : Nat := 0
  gid : Nat := 0
  cwd : String := ""
  hostname : String := ""
  executable : String := ""
  tempDir : String := ""
  userCacheDir : String := ""
  userConfigDir : String := ""
  userHomeDir : String := ""
  user : String := ""
  shell : String := ""
  term : String := ""
  path : String := ""
  deriving DecidableEq, Repr

/-- The details by their names. -/
def ProcessDetails.fields (p : ProcessDetails) : List (String × Value) :=
  [("pid", .ofNat p.pid), ("ppid", .ofNat p.ppid), ("uid", .ofNat p.uid), ("gid", .ofNat p.gid),
    ("cwd", .ofString p.cwd), ("hostname", .ofString p.hostname),
    ("executable", .ofString p.executable), ("temp_dir", .ofString p.tempDir),
    ("user_cache_dir", .ofString p.userCacheDir), ("user_config_dir", .ofString p.userConfigDir),
    ("user_home_dir", .ofString p.userHomeDir), ("user", .ofString p.user),
    ("shell", .ofString p.shell), ("term", .ofString p.term), ("path", .ofString p.path)]

/-- The surroundings of a run. -/
structure Snapshot where
  environment : Environment := []
  process : ProcessDetails := {}
  deriving DecidableEq, Repr

namespace Snapshot

/-- The value of a variable, if it is set. -/
def lookupEnv (s : Snapshot) (name : String) : Option String := s.environment.get? name

/-- The value of a variable, or nothing. -/
def getenv (s : Snapshot) (name : String) : String := (s.lookupEnv name).getD ""

/-- What templates see by name: the environment, the process and a flag. -/
def globalContext (s : Snapshot) (debug : Bool) : List (String × Value) :=
  [("env", .map (s.environment.map fun v => (.ofString v.1, .ofString v.2))),
    ("proc", .map (s.process.fields.map fun f => (.ofString f.1, f.2))),
    ("debug", .bool debug)]

end Snapshot
end Stencil
