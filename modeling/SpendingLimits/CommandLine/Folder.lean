namespace SpendingLimits.CommandLine

/-- Why a file cannot be read. -/
inductive ReadFault where
  | missing
  | isFolder
  | notFolder
  | denied
  | tooLong
  | notText
  | other (text : String)
deriving DecidableEq

def ReadFault.message : ReadFault → String
  | missing => "No such file or directory (os error 2)"
  | isFolder => "Is a directory (os error 21)"
  | notFolder => "Not a directory (os error 20)"
  | denied => "Permission denied (os error 13)"
  | tooLong => "File name too long (os error 36)"
  | notText => "stream did not contain valid UTF-8"
  | other text => text

/-- Text files by the path that leads to them from the folder, other files, and folders that hold
nothing. -/
structure Folder where
  files : List (List String × String)
  notText : List (List String)
  empty : List (List String)

namespace Folder

/-- The bytes that a step of a path may have. -/
def stepLimit : Nat := 255

/-- The bytes that a path may have. -/
def pathLimit : Nat := 4095

/-- The steps of a path that stay where they are. -/
def isIdle (step : String) : Bool := step == "" || step == "."

/-- The parts of a path between its slashes. -/
def cut : List Char → List (List Char)
  | [] => [[]]
  | '/' :: cs => [] :: cut cs
  | c :: cs =>
    match cut cs with
    | [] => [[c]]
    | part :: parts => (c :: part) :: parts

/-- The steps of a path. -/
def stepsOf (path : String) : List String := (cut path.toList).map String.ofList

/-- The steps of a path that do not stay where they are. -/
def wayOf (path : String) : List String := (stepsOf path).filter (!isIdle ·)

/-- The folder with files of these names. -/
def ofFiles (files : List (String × String)) : Folder :=
  ⟨files.map fun (name, content) => (wayOf name, content), [], []⟩

/-- What a path without idle steps leads to, if there is anything: a file or a folder. -/
def find? (f : Folder) (path : List String) : Option (Except ReadFault String) :=
  match f.files.lookup path with
  | some content => some (.ok content)
  | none =>
    if f.notText.contains path then some (.error .notText)
    else if f.files.any (path.isPrefixOf ·.1) || f.notText.any (path.isPrefixOf ·) ||
        f.empty.any (path.isPrefixOf ·) then
      some (.error .isFolder)
    else none

/-- Follows a path from a place in the folder. `here` leads back from that place to the folder, and
`above` follows what is left of a path that goes up from the folder. -/
def follow (f : Folder) (above : Option (List String → Except ReadFault String))
    (here : List String) : List String → Except ReadFault String
  | [] => (f.find? here.reverse).getD (.error .isFolder)
  | step :: steps =>
    if f.find? here.reverse matches some (.ok _) | some (.error .notText) then .error .notFolder
    else if isIdle step then follow f above here steps
    else if step = ".." then
      match here with
      | _ :: back => follow f above back steps
      | [] => match above with
        | some go => go steps
        | none => follow f above [] steps
    else if step.utf8ByteSize > stepLimit then .error .tooLong
    else if (f.find? (here.reverse ++ [step])).isSome then follow f above (step :: here) steps
    else .error .missing

/-- The root of every system, as far as it is the same everywhere: its folders, the null device and
an input without text, a file of text and a program. -/
def root : Folder where
  files := [(["dev", "null"], ""), (["dev", "stdin"], ""), (["etc", "passwd"], "root:x:0:0\n")]
  notText := [["bin", "sh"], ["usr", "bin", "env"]]
  empty := [["boot"], ["dev", "shm"], ["home"], ["lib"], ["media"], ["mnt"], ["opt"],
    ["proc", "self"], ["root"], ["run"], ["sbin"], ["srv"], ["sys", "kernel"], ["tmp"],
    ["usr", "lib"], ["usr", "local"], ["usr", "sbin"], ["usr", "share"], ["var", "log"],
    ["var", "tmp"]]

/-- Follows a path from the root, which is the folder above itself. -/
def fromRoot (steps : List String) : Except ReadFault String := root.follow none [] steps

/-- The number of folders above the folder. -/
def depth : Nat := 4

/-- Follows a path from a place above the folder, `level` folders up. Between the folder and the
root nothing is known but the folders that lead to it. -/
def outside (level : Nat) : List String → Except ReadFault String
  | [] => .error .isFolder
  | step :: steps =>
    if level ≥ depth then fromRoot (step :: steps)
    else if isIdle step then outside level steps
    else if step = ".." then outside (level + 1) steps
    else if step.utf8ByteSize > stepLimit then .error .tooLong
    else .error .missing

/-- The text that a path leads to. -/
def read (f : Folder) (path : String) : Except ReadFault String :=
  if path.utf8ByteSize > pathLimit then .error .tooLong
  else
    match stepsOf path with
    | "" :: steps => fromRoot steps
    | steps => f.follow (some (outside 1)) [] steps

end Folder

end SpendingLimits.CommandLine
