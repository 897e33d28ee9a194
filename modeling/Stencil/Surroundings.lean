import Stencil.Error
import Stencil.Snapshot

/-! What the system tells a process about itself, and the snapshot that is taken of it.

The environment comes as bytes. A directory of the user is named by a variable or lies in the
home directory, and the home directory is named by a variable or by the user's account. -/
namespace Stencil
open Text.Utf8 (Bytes)

/-- What the system tells a process, or why it does not. -/
structure Surroundings where
  environment : List (Bytes × Bytes) := []
  /-- The working directory. -/
  directory : Except String Bytes
  hostname : Except String Bytes := .ok []
  executable : Except String Bytes := .ok []
  accountHome : Option Bytes := none
  pid : Nat := 0
  ppid : Nat := 0
  uid : Nat := 0
  gid : Nat := 0

namespace Surroundings

/-- The bytes of a variable. -/
def bytesOf? (s : Surroundings) (name : String) : Option Bytes :=
  s.environment.lookup (Text.Utf8.encodeText name)

/-- A path under a directory. -/
def under (directory : Bytes) (name : String) : Bytes :=
  let slash : Bytes := if directory.getLast? == some 0x2F then [] else [0x2F]
  directory ++ slash ++ Text.Utf8.encodeText name

/-- The home directory. -/
def home? (s : Surroundings) : Option Bytes :=
  match s.bytesOf? "HOME" with
  | some (b :: path) => some (b :: path)
  | _ => s.accountHome

/-- A directory of the user: what a variable names, if that is an absolute path, or a directory
in the home directory. -/
def userDirectory? (s : Surroundings) (named name : String) : Option Bytes :=
  match s.bytesOf? named with
  | some (0x2F :: path) => some (0x2F :: path)
  | _ => s.home?.map fun home => under home name

/-- The directory for files that do not last. -/
def temporary (s : Surroundings) : Bytes :=
  (s.bytesOf? "TMPDIR").getD (Text.Utf8.encodeText "/tmp")

/-- A directory of the user that has to be known. -/
def required (kind : String) : Option Bytes → Except Error String
  | some path => .ok (Text.Utf8.lossyText path)
  | none => .error (.process s!"cannot determine user {kind} directory")

/-- A text that the system has to tell. -/
def told (kind : String) : Except String Bytes → Except Error String
  | .ok bytes => .ok (Text.Utf8.lossyText bytes)
  | .error reason => .error (.process ("cannot determine " ++ kind ++ ": " ++ reason))

/-- Takes a snapshot. -/
def capture (s : Surroundings) : Except Error Snapshot := do
  let environment := Environment.ofBytes s.environment
  let fromEnv (name : String) : String := (environment.get? name).getD ""
  let cwd ← told "working directory" s.directory
  let hostname ← told "hostname" s.hostname
  let executable ← told "executable" s.executable
  let userCacheDir ← required "cache" (s.userDirectory? "XDG_CACHE_HOME" ".cache")
  let userConfigDir ← required "config" (s.userDirectory? "XDG_CONFIG_HOME" ".config")
  let userHomeDir ← required "home" s.home?
  let process : ProcessDetails := {
    pid := s.pid, ppid := s.ppid, uid := s.uid, gid := s.gid, cwd, hostname, executable
    tempDir := Text.Utf8.lossyText s.temporary
    userCacheDir, userConfigDir, userHomeDir
    user := fromEnv "USER", shell := fromEnv "SHELL", term := fromEnv "TERM"
    path := fromEnv "PATH" }
  return { environment, process }

/-! ### Reading what the system reports -/

/-- The parts of bytes between separators. -/
def parts (separator : UInt8) : Bytes → List Bytes
  | [] => [[]]
  | b :: rest =>
    match parts separator rest with
    | [] => [[b]]
    | p :: ps => if b == separator then [] :: p :: ps else (b :: p) :: ps

/-- An environment as the system reports it, with a zero behind each entry. -/
def environmentOf (report : Bytes) : List (Bytes × Bytes) := (parts 0 report).filterMap entryOf?

/-- The number that digits spell. -/
def numberOf (digits : Bytes) : Nat :=
  digits.foldl (fun n b => 10 * n + (b.toNat - 0x30)) 0

/-- The number behind a label at the start of a line. -/
def numberBehind (label : String) (report : Bytes) : Nat :=
  let label := Text.Utf8.encodeText label
  let isDigit := fun b : UInt8 => 0x30 ≤ b && b ≤ 0x39
  match (parts 0x0A report).find? fun line => label.isPrefixOf line with
  | some line => numberOf (((line.drop label.length).dropWhile fun b => !isDigit b).takeWhile isDigit)
  | none => 0

/-- The home directory of a user in a list of accounts. -/
def homeOf? (uid : Nat) (accounts : Bytes) : Option Bytes :=
  (parts 0x0A accounts).findSome? fun line =>
    match parts 0x3A line with
    | [_, _, number, _, _, home, _] =>
      if !number.isEmpty && numberOf number == uid then some home else none
    | _ => none

end Surroundings
end Stencil
