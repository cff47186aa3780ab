import Montage.Shell.Starting
import Montage.Utility.Carry
import Montage.Utility.Columns
import Montage.Utility.Difference
import Montage.Utility.Digest
import Montage.Utility.Dump
import Montage.Utility.Edit
import Montage.Utility.Excerpt
import Montage.Utility.Exchange
import Montage.Utility.Expression
import Montage.Utility.Launch
import Montage.Utility.Listing
import Montage.Utility.Records
import Montage.Utility.Search
import Montage.Utility.Sort
import Montage.Utility.Transfer
import Montage.Utility.Walk
import Montage.Utility.Words

/-!
The commands that are programs of their own, by their names.
-/

namespace Montage.Utility

open Shell

/-- What a command does with its arguments; it may start other programs. -/
abbrev Action := Starter → State → List String → State

/-- Commands that work on lines of text. -/
def textCommands : List (String × (State → List String → State)) :=
  [("base64", base64), ("cat", cat), ("cksum", cksum), ("cmp", cmp), ("comm", comm), ("cut", cut),
    ("diff", diff), ("egrep", grepAs "E"), ("expand", expand), ("fgrep", grepAs "F"),
    ("fold", fold), ("grep", grep), ("head", head), ("join", join), ("nl", nl), ("od", od),
    ("paste", paste), ("rev", rev), ("sort", sort), ("sum", sum), ("tac", tac), ("tail", tail),
    ("tee", tee), ("tr", tr), ("unexpand", unexpand), ("uniq", uniq), ("wc", wc), ("yes", yes)]

/-- Commands that make short texts of files. -/
def digestCommands : List (String × (State → List String → State)) :=
  [("md5sum", "md5"), ("sha1sum", "sha1"), ("sha224sum", "sha224"), ("sha256sum", "sha256"),
    ("sha384sum", "sha384"), ("sha512sum", "sha512")].map fun (command, key) =>
      (command, digestCommand command key)

/-- Commands that work on files and directories. -/
def fileCommands : List (String × (State → List String → State)) :=
  [("chgrp", changeOwner "chgrp"), ("chmod", chmod), ("chown", changeOwner "chown"), ("cp", cp),
    ("dd", dd), ("du", du), ("install", install), ("link", link), ("ln", ln), ("ls", ls),
    ("mkdir", mkdir), ("mktemp", mktemp), ("mv", mv), ("readlink", readlink),
    ("realpath", realpath), ("rm", rm), ("rmdir", rmdir), ("stat", stat),
    ("sync", fun s _ => s.finish 0), ("touch", touch), ("truncate", truncate),
    ("unlink", unlink)]

/-- Commands that work on words and numbers, or tell about the machine. -/
def wordCommands : List (String × (State → List String → State)) :=
  [("[", fun s args => s.bracket (testTrouble "[") args), ("arch", telling "arch" "x86_64"),
    ("basename", basename), ("date", date), ("dirname", dirname),
    ("echo", fun s args => (s.write 1 (plainEcho args)).finish 0), ("expr", expr),
    ("false", fun s _ => s.finish 1), ("groups", groups), ("hostname", hostname), ("id", identify),
    ("logname", logname), ("nproc", nproc), ("printenv", printenv), ("printf", printf),
    ("pwd", printDirectory), ("seq", seq), ("sleep", sleep),
    ("test", fun s args => s.test (testTrouble "test") args), ("true", fun s _ => s.finish 0),
    ("tty", tty), ("uname", uname), ("which", which), ("whoami", telling "whoami" "root")]

/-- Commands that start other programs. -/
def startingCommands : List (String × Action) :=
  [("awk", awk), ("env", env), ("find", find), ("mawk", awk), ("nice", nice), ("nohup", nohup),
    ("sed", sed), ("setsid", setsid), ("stdbuf", stdbuf), ("timeout", timeout), ("xargs", xargs)]

def table : List (String × Action) :=
  startingCommands ++
    (textCommands ++ digestCommands ++ fileCommands ++ wordCommands).map fun (name, action) =>
      (name, fun _ => action)

/-- The status of a command that could not write all it had to say. -/
def writeTrouble (name : String) : Nat :=
  match name with
  | "sort" | "ls" | "grep" | "cmp" | "diff" | "awk" | "printenv" => 2
  | "expr" => 3
  | "sed" => 4
  | "env" => 125
  | _ => 1

end Montage.Utility

/-!
The disk of a machine on which nothing has been done yet: its directories, devices and programs.
-/

namespace Montage.Shell

/-- The names under which the shell is known. -/
def shells : List String :=
  ["sh", "dash", "bash"]

/-- The names of the programs of the system. -/
def programNames : List String :=
  shells ++ Utility.table.map (·.1)

/-- Where the programs of the system are. -/
def programPlace : Place :=
  ["usr", "bin"]

/-- A program of the system as a file. -/
def programFile (name : String) : Content :=
  ⟨[0x7f, 0x45, 0x4c, 0x46], 0o755, .program name, Disk.firstMoment⟩

/-- The disk with the programs of the system. -/
def withPrograms (d : Disk) : Disk :=
  let first := d.files.length
  let entries := programNames.zipIdx.map fun (name, i) => (name, Entry.file (first + i))
  let d := d.addParents programPlace
  { d with files := d.files ++ programNames.map programFile }.set programPlace
    (some (.directory entries))

/-- The usual directories, those first that others are in. -/
def machineDirectories : List Place :=
  [["boot"], ["etc"], ["home"], ["media"], ["mnt"], ["opt"], ["proc"], ["root"], ["run"], ["srv"],
    ["sys"], ["tmp"], ["usr"], ["usr", "bin"], ["usr", "lib"], ["usr", "local"],
    ["usr", "local", "bin"], ["usr", "sbin"], ["usr", "share"], ["var"], ["var", "tmp"]]

/-- Directories that can be found in two ways. -/
def machineLinks : List String :=
  ["bin", "lib", "sbin"]

def machine (workingDirectory : Place) : Disk :=
  let d := machineDirectories.foldl Disk.addDirectory (Disk.empty workingDirectory)
  machineLinks.foldl (fun d name =>
    d.set [name] (some (.link (.ofNames false ["usr", name])))) (withPrograms d)

end Montage.Shell
