import CodeMetrics.Files.OsError
import CodeMetrics.Files.Path

/-!
# File systems

A run asks a file system one question: what stands at a path.

* `Entry` — what can stand at a path, with what reading it as a file gives;
* `Lookup` — the answers, among them that the system refuses to tell;
* `FileSystem` — anything that answers that question;
* `Disk` — files and directories held in memory, which answers it the way a disk does: every name
  but the last must lead into a directory, and double dots lead back out.
-/

namespace CodeMetrics

/-- What stands at a path, with what reading it as a file gives. -/
inductive Entry where
  /-- A regular file.  The system tells its size without reading it. -/
  | regular (size : Nat) (content : Except OsError ByteArray)
  /-- A directory, which is not read. -/
  | directory (refusal : OsError)
  /-- Anything else, such as a device or a pipe. -/
  | special (content : Except OsError ByteArray)

namespace Entry

/-- A regular file that holds some bytes and can be read. -/
def file (bytes : ByteArray) : Entry := regular bytes.size (.ok bytes)

/-- What reading the entry as a file gives. -/
def content : Entry → Except OsError ByteArray
  | regular _ content => content
  | directory refusal => .error refusal
  | special content => content

end Entry

/-- The outcome of following a path. -/
inductive Lookup where
  /-- Nothing stands there, or no path of that form leads anywhere. -/
  | missing
  /-- The system refuses to tell. -/
  | refused (e : OsError)
  | found (e : Entry)

/-- A view of the files of a machine. -/
structure FileSystem where
  look : Path → Lookup

/-! ## Disks -/

/-- What a disk keeps under a name. -/
inductive DiskItem where
  | file (bytes : ByteArray)
  | directory

/-- What stands where a disk keeps the item, if the path that leads there is written in a given
way. -/
def DiskItem.entry (text : String) : DiskItem → Entry
  | file bytes => .file bytes
  | directory => .directory (.isDirectory text)

/-- Files and directories by their names from the top. -/
structure Disk where
  /-- Where paths without a leading slash start. -/
  cwd : List String
  items : List (List String × DiskItem) := []

namespace Disk

/-- What is kept under the given names.  The top is a directory. -/
def at? (d : Disk) (names : List String) : Option DiskItem :=
  if names.isEmpty then some .directory
  else (d.items.find? (fun i => i.1 == names)).map (·.2)

/-- The longest name of a file in bytes. -/
def maxNameBytes : Nat := 255

/-- The longest path in bytes. -/
def maxPathBytes : Nat := 4095

/-- Follows names from a place; `text` is the path as it was written.  Only a directory can be
passed through, and names are looked at one after the other. -/
def follow (d : Disk) (text : String) (place : List String) : List String → Lookup
  | [] =>
      match d.at? place with
      | some item => .found (item.entry text)
      | none => .missing
  | name :: rest =>
      match d.at? place with
      | some .directory =>
          if maxNameBytes < name.utf8ByteSize then .refused (.nameTooLong text)
          else d.follow text (if name = ".." then place.dropLast else place ++ [name]) rest
      | _ => .missing

/-- The directories that lead to a place, from the top. -/
def ways (names : List String) : List (List String) :=
  (List.range names.length).map (fun n => names.take n)

/-- Puts an item in its place, with the directories that lead there. -/
def insert (d : Disk) (names : List String) (item : DiskItem) : Disk :=
  let missing := (ways names).filter (fun n => (d.at? n).isNone)
  { d with items := (names, item) :: (missing.map (fun n => (n, .directory)) ++ d.items) }

/-- The disk as a file system.  No path holds a null character. -/
def view (d : Disk) : FileSystem where
  look p :=
    if '\x00' ∈ p.text.toList then .missing
    else if maxPathBytes < p.text.utf8ByteSize then .refused (.nameTooLong p.text)
    else d.follow p.text (if p.slashes = 0 then d.cwd else []) p.names

end Disk

end CodeMetrics
