import Switchboard.Logging.Layout

/-!
# Files that lines are written to

Directories and the lines of files, as far as logging makes or needs them. Paths are followed part
by part from the working directory; two points lead back up.
-/

namespace Switchboard

/-- Why the system refuses a path. -/
inductive DiskError
  | notFound
  | alreadyExists
  | notDirectory
  | isDirectory
  | nameTooLong
  | zeroByte
deriving DecidableEq, Repr

def DiskError.message : DiskError → String
  | notFound => "No such file or directory (os error 2)"
  | alreadyExists => "File exists (os error 17)"
  | notDirectory => "Not a directory (os error 20)"
  | isDirectory => "Is a directory (os error 21)"
  | nameTooLong => "File name too long (os error 36)"
  | zeroByte => "file name contained an unexpected NUL byte"

/-- A path as it is written. -/
structure DiskPath where
  absolute : Bool
  parts : List String
  /-- Whether it ends in a slash. -/
  slash : Bool
deriving DecidableEq, Repr

namespace DiskPath

def ofText (s : String) : DiskPath :=
  let cs := s.toList
  { absolute := cs.head? = some '/'
    parts := ((cs.splitOn '/').filter (· ≠ [])).map String.ofList
    slash := cs.getLast? = some '/' }

/-- The path of `name` in the directory `dir`. -/
def join (dir name : String) : DiskPath :=
  let inner := ofText name
  if inner.absolute then inner
  else
    let outer := ofText dir
    { inner with absolute := outer.absolute, parts := outer.parts ++ inner.parts }

/-- The directory that the last part but points stands in. -/
def parent (p : DiskPath) : DiskPath :=
  let rest := (p.parts.reverse.dropWhile (· = ".")).drop 1
  { p with parts := rest.reverse, slash := false }

end DiskPath

/-- Where a path leads: the names on the way from the working directory. -/
abbrev Place := List String

namespace Place

/-- The root of all places. -/
def root : Place := ["/"]

/-- The place that a part of a path leads to. -/
def step (p : Place) (part : String) : Place :=
  if part = "." then p
  else if part = ".." then
    if p = root then p
    else if p.getLast?.getD ".." = ".." then p ++ [".."]
    else p.dropLast
  else p ++ [part]

/-- Places above the working directory are always there. -/
def isAbove (p : Place) : Bool :=
  p = root || p.all (· = "..")

end Place

structure Disk where
  dirs : List Place := []
  files : List (Place × List LogLine) := []

namespace Disk

def isDir (d : Disk) (p : Place) : Bool :=
  p.isAbove || d.dirs.contains p

def isFile (d : Disk) (p : Place) : Bool :=
  d.files.any (·.1 == p)

/-- The longest name of a file, in bytes. -/
def maxName : Nat := 255

/-- Follows the parts of a path. -/
def follow (d : Disk) (from_ : Place) : List String → Except DiskError Place
  | [] => .ok from_
  | part :: rest =>
    if d.isDir from_ then
      if maxName < part.utf8ByteSize then .error .nameTooLong
      else d.follow (from_.step part) rest
    else if d.isFile from_ then .error .notDirectory
    else .error .notFound

/-- The place that a path leads to, if all directories on the way are there. -/
def locate (d : Disk) (p : DiskPath) : Except DiskError Place :=
  if p.parts.any (·.toList.contains (Char.ofNat 0)) then .error .zeroByte
  else d.follow (if p.absolute then Place.root else []) p.parts

def isDirAt (d : Disk) (p : DiskPath) : Bool :=
  match d.locate p with
  | .ok place => d.isDir place
  | .error _ => false

/-- Whether a path leads to a file. -/
def isFileAt (d : Disk) (p : DiskPath) : Bool :=
  match d.locate p with
  | .ok place => d.isFile place && !p.slash
  | .error _ => false

/-- Makes one directory. -/
def makeDir (d : Disk) (p : DiskPath) : Except DiskError Disk := do
  let place ← d.locate p
  if d.isDir place || d.isFile place then throw .alreadyExists
  else return { d with dirs := place :: d.dirs }

/-- Makes the directory whose parts are given from the last one on, and all that lead to it. -/
def makeDirsFrom (absolute : Bool) : List String → Disk → Except DiskError Disk
  | [], d => .ok d
  | last :: before, d =>
    let p : DiskPath := { absolute, parts := (last :: before).reverse, slash := false }
    let settle (d : Disk) : Except DiskError Disk → Except DiskError Disk
      | .ok d => .ok d
      | .error e => if d.isDirAt p then .ok d else .error e
    match d.makeDir p with
    | .error .notFound =>
      match makeDirsFrom absolute before d with
      | .error e => .error e
      | .ok d => settle d (d.makeDir p)
    | made => settle d made

/-- Makes a directory and all that lead to it, as far as they are not there. -/
def makeDirs (d : Disk) (p : DiskPath) : Except DiskError Disk :=
  makeDirsFrom p.absolute (p.parts.filter (· ≠ ".")).reverse d

/-- Opens a file for lines at its end. It is made if it is not there. -/
def openFile (d : Disk) (p : DiskPath) : Except DiskError (Place × Disk) := do
  let place ← d.locate p
  if d.isDir place then throw .isDirectory
  else if d.isFile place then
    if p.slash then throw .notDirectory else return (place, d)
  else if p.slash then throw .isDirectory
  else return (place, { d with files := d.files ++ [(place, [])] })

/-- Writes a line at the end of a file. -/
def append (d : Disk) (p : Place) (line : LogLine) : Disk :=
  { d with files := d.files.map fun f => if f.1 = p then (f.1, f.2 ++ [line]) else f }

/-- A file with the directories that lead to it. -/
def put (d : Disk) (name : String) : Disk :=
  let p := DiskPath.ofText name
  match d.makeDirs p.parent with
  | .error _ => d
  | .ok d =>
    match d.openFile p with
    | .error _ => d
    | .ok (_, d) => d

end Disk

end Switchboard
