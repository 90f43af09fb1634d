import ResourceSymbols.Program.Run
import ResourceSymbols.Files.Disk
import Std.Time.DateTime.Timestamp

namespace ResourceSymbols.Machine

def text (p : Bytes) : String :=
  match String.fromUTF8? (ByteArray.mk p.toArray) with
  | some s => s
  | none => String.ofList (p.map fun b => Char.ofNat b.toNat)

def errno : IO.Error → Option UInt32
  | .alreadyExists _ c _ | .otherError c _ | .resourceBusy c _ | .resourceVanished c _
  | .unsupportedOperation c _ | .hardwareFault c _ | .unsatisfiedConstraints c _
  | .illegalOperation c _ | .protocolError c _ | .timeExpired c _ | .interrupted _ c _
  | .noFileOrDirectory _ c _ | .invalidArgument _ c _ | .permissionDenied _ c _
  | .resourceExhausted _ c _ | .inappropriateType _ c _ | .noSuchThing _ c _ => some c
  | _ => none

def reason (e : IO.Error) : Bytes :=
  match errno e with
  | some 2 => Errno.noEntry.text
  | some 13 => Bytes.ofString "permission denied"
  | some 17 => Errno.already.text
  | some 20 => Errno.notDir.text
  | some 21 => Errno.isDir.text
  | some 28 => Errno.noSpace.text
  | some 36 => Errno.nameTooLong.text
  | some 39 => Errno.notEmpty.text
  | some 40 => Errno.loop.text
  | _ => Bytes.ofString (toString e)

def failure (op : String) (p : Bytes) (e : IO.Error) : FsError :=
  { FsError.onPath (Bytes.ofString op) p (reason e) (errno e == some 2) with taken := errno e == some 17 }

def attempt {α : Type} (op : String) (p : Bytes) (act : IO α) : IO (Except FsError α) := do
  try return .ok (← act) catch e => return .error (failure op p e)

def kindOf : IO.FS.FileType → Kind
  | .dir => .directory
  | .file => .regular
  | .symlink => .symlink
  | .other => .device

partial def readAll (h : IO.FS.Handle) (acc : ByteArray) : IO ByteArray := do
  let chunk ← h.read 65536
  if chunk.isEmpty then return acc else readAll h (acc ++ chunk)

def makeDirs (p : Bytes) : IO (Except FsError Unit) :=
  attempt "mkdir" p (IO.FS.createDirAll (text p))

def writeTo (h : IO.FS.Handle) (p : Bytes) (data : Bytes) : IO (Except FsError Unit) :=
  attempt "write" p do
    h.write (ByteArray.mk data.toArray)
    h.flush

def sharedReadable : IO.FileRight :=
  { user := { read := true, write := true }
    group := { read := true }
    other := { read := true } }

instance : Host IO where
  stat p := attempt "stat" p do
    let here ← IO.currentDir
    return kindOf (← { here with toString := text p }.metadata).type
  lstat p := attempt "lstat" p do
    let here ← IO.currentDir
    return kindOf (← { here with toString := text p }.symlinkMetadata).type
  statTime p := attempt "stat" p do
    let here ← IO.currentDir
    let md ← { here with toString := text p }.metadata
    return (kindOf md.type, md.modified.sec.toNat * 1000000000 + md.modified.nsec.toNat)
  readFile p := do
    match ← attempt "open" p (IO.FS.Handle.mk (text p) .read) with
    | .error e => return .error e
    | .ok h =>
      match ← attempt "read" p (readAll h ByteArray.empty) with
      | .ok data => return .ok { bytes := data.toList }
      | .error e => return .ok { bytes := [], stop := some e.toFailure }
  readDir p := attempt "open" p do
    let here ← IO.currentDir
    let entries ← { here with toString := text p }.readDir
    return (entries.toList.map fun e => Bytes.ofString e.fileName).mergeSort Bytes.le
  makeDirs := makeDirs
  createNew p := do
    match ← attempt "open" p (IO.FS.Handle.mk (text p) .writeNew) with
    | .ok _ => return .ok ()
    | .error e => return .error e
  create p := do
    match ← attempt "open" p (IO.FS.Handle.mk (text p) .write) with
    | .ok _ => return .ok ()
    | .error e => return .error e
  openAppend p := do
    match ← attempt "open" p (IO.FS.Handle.mk (text p) .append) with
    | .ok _ => return .ok ()
    | .error e => return .error e
  append p data := do
    match ← attempt "open" p (IO.FS.Handle.mk (text p) .append) with
    | .error e => return .error e
    | .ok h => writeTo h p data
  chmod p := attempt "chmod" p (IO.setAccessRights (text p) sharedReadable)
  rename a b := do
    try
      IO.FS.rename (text a) (text b)
      return .ok ()
    catch e =>
      return .error (FsError.onPaths (Bytes.ofString "rename") a b (reason e))
  remove p := do
    match ← attempt "remove" p (IO.FS.removeFile (text p)) with
    | .ok () => return .ok ()
    | .error e =>
      match ← attempt "remove" p (IO.FS.removeDir (text p)) with
      | .ok () => return .ok ()
      | .error _ => return .error e
  toStdout data := attempt "write" (Bytes.ofString "/dev/stdout") do
    let out ← IO.getStdout
    out.write (ByteArray.mk data.toArray)
    out.flush
  toStderr data := do
    let err ← IO.getStderr
    try
      err.write (ByteArray.mk data.toArray)
      err.flush
    catch _ => pure ()
  workDir := do return Bytes.ofString (← IO.currentDir).toString
  tempDir := do
    match ← IO.getEnv "TMPDIR" with
    | some d => if d.isEmpty then return Bytes.ofString "/tmp" else return Bytes.ofString d
    | none => return Bytes.ofString "/tmp"
  now := do return (← Std.Time.Timestamp.now).toNanosecondsSinceUnixEpoch.val.toNat
  random := IO.rand 0 4294967295

end ResourceSymbols.Machine

open ResourceSymbols in
/-- Run `rgen` on the command line's arguments. -/
def main (args : List String) : IO UInt32 := do
  let identity : Program.Identity := { runtime := "lean-4.33.0" }
  let (status, _) ← (Program.exec identity (args.map Bytes.ofString)).run {}
  return status.toUInt32
