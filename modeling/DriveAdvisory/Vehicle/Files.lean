/-
  Snapshots from files that another program keeps current: the snapshot as a document, and the camera's
  picture beside it.

  Both are read anew for every tick.  The snapshot was taken when it is read, whatever it says itself, and a
  picture that is missing or empty is none.
-/
import DriveAdvisory.Json.Reader
import DriveAdvisory.Fault
import DriveAdvisory.Vehicle.Snapshot

namespace DriveAdvisory

/-- What reading a file gave: its content, or why it cannot be read. -/
abbrev FileContent (α : Type) := Except String α

/-- Why a file that is not there cannot be read. -/
def noSuchFile : String := "No such file or directory (os error 2)"

/-- The picture of a file. -/
def pictureOf (file : FileContent (List UInt8)) : Option (List UInt8) :=
  file.toOption.filter fun bytes => !bytes.isEmpty

/-- What of a snapshot's document is read.  Whatever else it holds needs no more than its form. -/
def Snapshot.outline : Json.Outline := .record
  [("captured_at", .all), ("vehicle", .flat Motion.fields.names), ("gps", .flat Fix.fields.names),
    ("leads", .list (.flat Lead.fields.names)), ("map", .flat Road.fields.names),
    ("network", .flat Network.fields.names), ("system", .flat Engagement.fields.names)]

/-- The snapshot of a file at a path, with the picture of another file if one is named. -/
def Snapshot.ofFiles (now : Moment) (path : String) (file : FileContent String)
    (picture : Option (FileContent (List UInt8))) : Except Fault Snapshot :=
  match file with
  | .error reason => .error (.contextUnavailable ("cannot read " ++ path ++ ": " ++ reason))
  | .ok text =>
    match (Json.readOutlined? Snapshot.outline text).map (Snapshot.decode now) with
    | some (.ok s) => .ok { s with takenAt := now, frame := picture.bind pictureOf }
    | _ => .error (.contextUnavailable ("malformed snapshot " ++ path))

end DriveAdvisory
