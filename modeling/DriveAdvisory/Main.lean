/-
  The command line: advice from a vehicle's context that another program keeps in a file.

  The program reads its settings, and writes the default ones where there are none; builds the session that
  they describe; and ticks until it is ended, showing each advisory and each status that is new.  Nothing
  is decided here.  The requests of the sources go to the transport that `main` is built with, which
  loses them all: a transport that sends them takes its place.  Moments count from the start of the
  program, because nothing that is shown depends on the date.
-/
import DriveAdvisory.Console.Line
import DriveAdvisory.Settings.Assembly
import DriveAdvisory.Settings.File
import DriveAdvisory.Settings.Overrides
import DriveAdvisory.Settings.Storage
import DriveAdvisory.Vehicle.Files

namespace DriveAdvisory.CommandLine

/-! ## The outside -/

/-- The variables that settings look at. -/
def environment : IO Settings.Environment := do
  let values ← Settings.variableNames.mapM fun name => do return (name, ← IO.getEnv name)
  return fun name => (values.lookup name).join

/-- The content of a file. -/
def readText (path : String) : IO (FileContent String) := do
  try
    return .ok (← IO.FS.readFile path)
  catch
    | .noFileOrDirectory .. => return .error noSuchFile
    | problem => return .error (toString problem)

/-- What an operation gave, or why it failed. -/
def guarded {α : Type} (operation : IO α) : IO (FileContent α) := do
  try
    return .ok (← operation)
  catch problem => return .error (toString problem)

/-- The bytes of a file. -/
def readBytes (path : String) : IO (FileContent (List UInt8)) := do
  return (← guarded (IO.FS.readBinFile path)).map (·.toList)

/-- The rights of an owner alone. -/
def ownerRights (directory : Bool) : IO.FileRight :=
  { user := { read := true, write := true, execution := directory } }

/-- The machine's files, of which only the settings file is written. -/
def disk (home : String) : Disk IO where
  isThere path := do
    match ← readText path with
    | .error reason => return reason != noSuchFile
    | .ok _ => return true
  read := readText
  makeDirectory _ := guarded (IO.FS.createDirAll (Settings.ownDirectory home))
  closeDirectory _ := guarded (IO.setAccessRights (Settings.ownDirectory home) (ownerRights true))
  write path text := guarded do
    IO.FS.writeFile path text
    IO.setAccessRights path (ownerRights false)

/-! ## Starting -/

/-- The settings file's settings, or the default ones. -/
def loadSettings (styled : Bool) (home : String) : IO Settings := do
  let path := Settings.filePath home
  let shownPath := Console.paint styled Console.bold path
  match ← (Settings.loadFrom (disk home) path).run with
  | .ok (some s) =>
    IO.println ("  Config loaded from " ++ shownPath)
    return s
  | .ok none =>
    match ← (Settings.saveTo (disk home) path {}).run with
    | .ok _ =>
      IO.println ("  " ++ Console.paint styled [1, 32] "✓" ++ " Default config written to " ++ shownPath)
    | .error fault =>
      IO.println ("  " ++ Console.paint styled Console.red "Error saving config" ++ ": " ++ fault.message)
    return {}
  | .error fault =>
    IO.println ("  " ++ Console.paint styled Console.red "Config error" ++ ": " ++ fault.message)
    IO.println "  Using default configuration."
    return {}

/-- The snapshot as the files are now. -/
def readSnapshot (now : Moment) (s : Settings) : IO (Option Snapshot) := do
  let file ← readText s.contextPath
  let picture ← s.framePath.mapM readBytes
  return (Snapshot.ofFiles now s.contextPath file picture).toOption

/-! ## Running -/

/-- The time since the start. -/
def elapsed (start : Nat) : IO Duration := do return (← IO.monoNanosNow) - start

/-- The moment of a time. -/
def momentOf (d : Duration) : Moment := ⟨d / 1000000000, d % 1000000000⟩

/-- The marks of sightings of a run. -/
def stampAt (seed : Nat) (now : Duration) (count : Nat) : Stamp :=
  ⟨BitVec.ofNat 128 (seed * 18446744073709551616 + count), momentOf now,
    Binary.ofNat now.toMillis / Binary.ofNat 1000⟩

/-- Prints a line unless it was printed last. -/
def printNew (last line : String) : IO String := do
  if line ≠ last then IO.println ("  " ++ line)
  return line

/-- Ticks, shows what is new, and waits for the next tick. -/
partial def tickForever (styled : Bool) (settings : Settings) (seed start : Nat) (period : Duration)
    (session : Session) (lastAdvisory lastStatus : String) : IO UInt32 := do
  let now ← elapsed start
  match settings.session? Transport.down (stampAt seed now) momentOf with
  | .error fault =>
    IO.println ("  " ++ Console.paint styled Console.alarming "Fatal" ++ ": " ++ fault.message)
    return 1
  | .ok setup =>
    let session := session.advance setup.pipeline now
    let (_, session) := session.tick setup (← readSnapshot (momentOf now) settings)
    let lastAdvisory ← printNew lastAdvisory
      (Console.advisoryLine styled session.ticker.advisories.latest)
    let lastStatus ← printNew lastStatus (Console.statusLine styled session.ticker.status.latest)
    IO.sleep (UInt32.ofNat (period.toMillis - ((← elapsed start) - now).toMillis))
    tickForever styled settings seed start period session lastAdvisory lastStatus

/-- The whole run, and its exit code. -/
def run : IO UInt32 := do
  let styled ← (← IO.getStdout).isTty
  IO.println ("  " ++ Console.paint styled Console.bold "Roadwise" ++ " "
    ++ Console.paint styled Console.dimmed "v0.1.0")
  IO.println "  Driving advisory co-pilot"
  let env ← environment
  let home := Settings.homeOf env
  let settings := (← loadSettings styled home).withEnvironment env
  match settings.validate, (settings.ticker?.toOption.bind fun t => t.period.toOption) with
  | .ok _, some period =>
    let start ← IO.monoNanosNow
    let seed ← IO.rand 0 4611686018427387903
    let engine := settings.engine (settings.sources Transport.down)
    IO.println (if engine.available then
        "  Reasoning backend: " ++ Console.paint styled Console.bold engine.name
      else "  " ++ Console.paint styled Console.yellow "No reasoning backend is configured."
        ++ "  Set an API key or choose the ollama provider.")
    IO.println ("  " ++ toString Catalogue.builtin.entries.length ++ " capabilities registered")
    IO.println ("  Reading context from " ++ Console.paint styled Console.dimmed settings.contextPath)
    let setup : Session :=
      { ticker := { advisories := .opened (momentOf 0) }, world := settings.world (some {}) }
    tickForever styled settings seed start period setup "" ""
  | .error fault, _ =>
    IO.println ("  " ++ Console.paint styled Console.alarming "Invalid configuration" ++ ": "
      ++ fault.message)
    return 1
  | .ok _, none =>
    IO.println ("  " ++ Console.paint styled Console.alarming "Fatal" ++ ": no period")
    return 1

end DriveAdvisory.CommandLine

def main : IO UInt32 := DriveAdvisory.CommandLine.run
