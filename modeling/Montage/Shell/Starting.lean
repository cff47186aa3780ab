import Montage.Shell.State

/-!
Starting programs, as the commands see it that start others.
-/

namespace Montage.Shell

/-- How a program ends, and the state after it, or why it cannot be started. -/
abbrev Started := Except FileError State

/-- Starts a program by its name with arguments. -/
abbrev Starter := String → List String → State → Started

namespace State

/-- The state of a program that has just been started: how an earlier one ended is forgotten. -/
def starting (s : State) : State :=
  { s with status := 0, refused := none, processes := { s.processes with endedBy := none } }

/-- The state after a program that `before` has started: it leaves the files, what it wrote and how
it ended. -/
def returned (before done : State) : State :=
  { before with
    disk := { done.disk with
      workingDirectory := before.disk.workingDirectory
      mask := before.disk.mask }
    pipes := done.pipes
    sources := done.sources
    opened := done.opened
    status := done.status
    processes := { before.processes with
      next := done.processes.next
      pending := done.processes.pending
      endedBy := done.processes.endedBy } }

/-- The directories in which programs are looked for; the empty name is the working directory. -/
def searchPath (s : State) : List String :=
  match s.stored? "PATH" with
  | none => []
  | some text => (Text.splitOn (· = ':') text.toList).map String.ofList

/-- A name in a directory of the search path. -/
def candidate (directory name : String) : String :=
  if directory = "" then name else directory ++ "/" ++ name

/-- Whether there is a file at a path that can be run. -/
def isProgram (s : State) (path : String) : Bool :=
  match s.disk.node? (pathOf path) with
  | some (.file content) => content.executable && !content.isDevice
  | _ => false

/-- Where a program is that is called by its name alone. -/
def programPath? (s : State) (name : String) : Option String :=
  (s.searchPath.map (candidate · name)).find? s.isProgram

/-- Remembers where a program is, if it can be found. -/
def remember (s : State) (name : String) : State :=
  if name.toList.contains '/' || (s.remembered.lookup name).isSome then s
  else match s.programPath? name with
    | some path => { s with remembered := s.remembered ++ [(name, path)] }
    | none => s

/-- Runs a program to its end. -/
def spawn (start : Starter) (name : String) (args : List String) (s : State) : Started :=
  (start name args s.starting).map s.returned

end State

end Montage.Shell
