import CodeMetrics.Text.Quoted

/-!
# Refusals of the operating system

A request for a file can be refused by the system: because of missing rights,
because of what stands at the path, or because of the path itself.

* `OsError` — a refusal, with `OsError.text` for its wording;
* `OsError.briefly` — the same without the number and the path.
-/

namespace CodeMetrics

/-- A refusal of the operating system. -/
structure OsError where
  number : Nat
  /-- What the system calls the condition. -/
  reason : String
  /-- The path that was asked for. -/
  path? : Option String := none
deriving Repr, DecidableEq, Inhabited

namespace OsError

/-- The wording of a refusal. -/
def text (e : OsError) : String :=
  s!"[Errno {e.number}] {e.reason}" ++ (e.path?.map (fun p => ": " ++ Text.quote p)).getD ""

/-- What the system calls the condition, or the whole wording if it has no name. -/
def briefly (e : OsError) : String := if e.reason.isEmpty then e.text else e.reason

/-- The caller lacks the rights to a file, or to a directory on the way to it. -/
def noAccess (path : String) : OsError := ⟨13, "Permission denied", some path⟩

/-- What was asked for as a file is a directory. -/
def isDirectory (path : String) : OsError := ⟨21, "Is a directory", some path⟩

/-- The path, or a name on it, is longer than any that a disk takes. -/
def nameTooLong (path : String) : OsError := ⟨36, "File name too long", some path⟩

end OsError

end CodeMetrics
