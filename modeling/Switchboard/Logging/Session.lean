import Switchboard.Logging.Disk
import Switchboard.Logging.Filter
import Switchboard.Version

/-!
# Logging of a process

A process sets up logging once. From then on each event that the filter lets through makes a line
on the console and, if a file was configured, one in the file.
-/

namespace Switchboard

/-- The date and the hour that names of log files take up. -/
structure Moment where
  day : String
  hour : String

namespace FileConfig

/-- The name of the file that is written at a moment. -/
def fileName (f : FileConfig) (now : Moment) : String :=
  let date := match f.rotation with
    | .never | .daily => now.day
    | .hourly => now.day ++ "-" ++ now.hour
  if f.stem = "" then date
  else if f.rotation = .never then f.stem
  else f.stem ++ "." ++ date

/-- Opens the log file. Its directory is made, and if the name of the file has directories in it,
these are made when the file cannot be opened at first. -/
def openOn (f : FileConfig) (now : Moment) (d : Disk) : Except LoggingError (Place × Disk) := do
  let refused (action : String) (e : DiskError) : LoggingError := .appender action e.message
  let d ← (d.makeDirs (.ofText f.dir)).mapError fun e => .io e.message
  let p := DiskPath.join f.dir (f.fileName now)
  match d.openFile p with
  | .ok opened => return opened
  | .error _ =>
    let d ← (d.makeDirs p.parent).mapError (refused "failed to create log directory")
    (d.openFile p).mapError (refused "failed to create initial log file")

/-- How lines are laid out in the file. There are never terminal escapes in it. -/
def layout (f : FileConfig) (target : Bool) : Layout :=
  { format := f.format.getD .json, ansi := false, target }

end FileConfig

/-- A log file and the layout of its lines. -/
structure Sink where
  place : Place
  layout : Layout

/-- Where events go once logging is set up. -/
structure Outlet where
  filter : Filter
  console : Layout
  file : Option Sink := none

/-- What the one who set up logging holds on to. -/
structure LoggingHandle where
  fileSink : Bool
deriving DecidableEq, Repr

def LoggingHandle.inspect (h : LoggingHandle) : String :=
  Text.braced "LoggingHandle" [("file_sink", if h.fileSink then "true" else "false")]

structure Session where
  now : Moment
  disk : Disk := {}
  /-- The lines on the console so far, oldest first. -/
  console : List LogLine := []
  outlet : Option Outlet := none

namespace Session

/-- Writes the lines of an event, whatever the filter says. -/
def write (o : Outlet) (e : Event) (s : Session) : Session :=
  { s with
    console := s.console ++ [o.console.line e]
    disk := match o.file with
      | none => s.disk
      | some sink => s.disk.append sink.place (sink.layout.line e) }

/-- Logs an event. -/
def record (e : Event) (s : Session) : Session :=
  match s.outlet with
  | none => s
  | some o => if o.filter.passes e then s.write o e else s

instance : Journaled Session where
  record := record

/-- The event that logs that logging was set up. -/
def started (c : LoggingConfig) : Event where
  level := .info
  target := "flexlink::logging"
  message := "logging initialized"
  fields := [("version", .text version), ("level", .rendered c.level),
    ("format", .rendered c.format.name),
    ("file", match c.file with
      | none => .absent
      | some f => .text f.dir)]

/-- Opens the file of a configuration, if it has one. -/
def openSink (c : LoggingConfig) (s : Session) : Except LoggingError (Option Sink × Session) :=
  match c.file with
  | none => .ok (none, s)
  | some f => do
    let (place, disk) ← f.openOn s.now s.disk
    return (some ⟨place, f.layout c.withTarget⟩, { s with disk })

/-- The filter of a usable configuration. -/
def filterOf (requested : Option String) (c : LoggingConfig) : Except LoggingError Filter := do
  c.validate
  Filter.ofConfig requested c

/-- Sets up logging. `requested` is the filter that the environment asks for. That logging was set
up before is noticed last. -/
def setUp (requested : Option String) (c : LoggingConfig) (s : Session) :
    Except LoggingError LoggingHandle × Session :=
  match filterOf requested c with
  | .error e => (.error e, s)
  | .ok filter =>
    match s.openSink c with
    | .error e => (.error e, s)
    | .ok (file, s) =>
      match s.outlet with
      | some _ => (.error .alreadyInitialized, s)
      | none =>
        let console : Layout := { format := c.format, ansi := c.withAnsi, target := c.withTarget }
        let s := { s with outlet := some { filter, console, file } }
        (.ok ⟨file.isSome⟩, s.record (started c))

/-- The event that logs that a log file is closed. -/
def flushing : Event where
  level := .debug
  target := "flexlink::logging::handle"
  message := "flushing file log sink"

/-- Gives up the handle. -/
def shutDown (h : LoggingHandle) (s : Session) : Session :=
  if h.fileSink then s.record flushing else s

end Session

end Switchboard
