/-
  Where settings are kept.

  Files are reached through a few operations that may fail and then say why (`Disk`); which files these are does not
  matter here.  A file that is not there is no problem, there are just no settings yet.  Settings may hold keys, so
  the directory is closed to others before anything is written in it.
-/
import DriveAdvisory.Settings.File
import DriveAdvisory.Vehicle.Files

namespace DriveAdvisory

/-- What may be done with the file at a path. -/
structure Disk (m : Type → Type) where
  isThere : String → m Bool
  read : String → m (FileContent String)
  /-- Makes the directory that the file is to be in, with those above it. -/
  makeDirectory : String → m (FileContent Unit)
  /-- Closes that directory to all but its owner. -/
  closeDirectory : String → m (FileContent Unit)
  /-- Writes the file anew, closed to all but its owner. -/
  write : String → String → m (FileContent Unit)

namespace Settings

variable {m : Type → Type} [Monad m]

/-- What an operation gives; its problem is one with the settings. -/
def attempt {α : Type} (what path : String) (operation : m (FileContent α)) : ExceptT Fault m α := do
  match ← operation with
  | .ok a => return a
  | .error reason => throw (.configuration ("failed to " ++ what ++ " " ++ path ++ ": " ++ reason))

/-- Writes settings to a file. -/
def saveTo (disk : Disk m) (path : String) (s : Settings) : ExceptT Fault m Unit := do
  attempt "create directory for" path (disk.makeDirectory path)
  attempt "restrict directory of" path (disk.closeDirectory path)
  let text ← liftExcept s.toText
  attempt "write" path (disk.write path text)

/-- The settings of a file, if there is one. -/
def loadFrom (disk : Disk m) (path : String) : ExceptT Fault m (Option Settings) := do
  if ← disk.isThere path then
    let text ← attempt "read" path (disk.read path)
    return some (← liftExcept (ofText text))
  else return none

end Settings

end DriveAdvisory
