import CodeMetrics.Files.Disk
import CodeMetrics.Session.Basic

/-!
# Reading sources

A source is a regular file of at most a given number of bytes that are UTF-8.
Its line ends are unified when it is read.

* `ReadFault` — why a file is no source, with `ReadFault.reason` for the wording;
* `FileSystem.readSource` — the text of a source and its size in bytes;
* `Run.readSource` — the same within a session, reported.
-/

namespace CodeMetrics

/-- Why a file cannot be read as a source. -/
inductive ReadFault where
  | missing
  | notRegular
  | tooLarge (size : Nat) (limit : Int)
  /-- The system refuses to give the bytes of a file. -/
  | unreadable (e : OsError)
  | notUtf8 (reason : Utf8.Reason)
  /-- A directory among the files of a run. -/
  | directory
  /-- The system refuses to tell what stands at a path. -/
  | refused (e : OsError)
deriving Repr, DecidableEq, Inhabited

/-- The wording of a fault. -/
def ReadFault.reason : ReadFault → String
  | missing => "file does not exist"
  | notRegular => "not a regular file"
  | tooLarge size limit => s!"file is {size} bytes, limit is {limit}"
  | unreadable e => e.briefly
  | notUtf8 reason => s!"not valid UTF-8: {reason.text}"
  | directory => "is a directory; pass source files explicitly"
  | refused e => e.text

/-- The trouble that a fault of the file at a path is.  That the system refuses to tell whether
there is a file is not reported. -/
def ReadFault.trouble (fault : ReadFault) (p : Path) : Trouble :=
  match fault with
  | refused e => .uncaught (.os e)
  | _ => .reported (.fileAccess p.text fault.reason)

/-- The text of a source with its size as the system tells it.  Size is looked at before content,
and content before encoding. -/
def FileSystem.readSource (fs : FileSystem) (p : Path) (limit : Int) :
    Except ReadFault (String × Nat) :=
  match fs.look p with
  | .missing => .error .missing
  | .refused e => .error (.refused e)
  | .found (.directory _) => .error .notRegular
  | .found (.special _) => .error .notRegular
  | .found (.regular size content) =>
      if limit < size then .error (.tooLarge size limit)
      else
        match content with
        | .error e => .error (.unreadable e)
        | .ok bytes =>
            match Utf8.decode bytes with
            | .error fault => .error (.notUtf8 fault.reason)
            | .ok text => .ok (Text.unifyLineEnds text, size)

/-- Reads a source and reports it. -/
def Run.readSource (fs : FileSystem) (p : Path) (limit : Int) : Run String :=
  match fs.readSource p limit with
  | .error fault => throw (fault.trouble p)
  | .ok (text, size) => do
      report (.sourceRead p.text size)
      return text

end CodeMetrics
