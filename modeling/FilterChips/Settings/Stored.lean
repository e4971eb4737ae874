/-
FilterChips.Settings.Stored — what stands at the path of a settings file, and why it may be out of
reach.
-/
namespace FilterChips

/-- Why a file cannot be read or made. -/
inductive FileFault where
  | notFound
  | permissionDenied
  | alreadyExists
  | notADirectory
  | isADirectory
  | nameTooLong
  | notText
  deriving DecidableEq, Repr

/-- The wording of a fault. -/
def FileFault.message : FileFault → String
  | .notFound => "No such file or directory (os error 2)"
  | .permissionDenied => "Permission denied (os error 13)"
  | .alreadyExists => "File exists (os error 17)"
  | .notADirectory => "Not a directory (os error 20)"
  | .isADirectory => "Is a directory (os error 21)"
  | .nameTooLong => "File name too long (os error 36)"
  | .notText => "stream did not contain valid UTF-8"

/-- What keeps a missing file from being made. -/
inductive Obstacle where
  /-- Its directory cannot be made. -/
  | directory (fault : FileFault)
  /-- Its directory is there, but the file cannot be written. -/
  | file (fault : FileFault)
  deriving DecidableEq, Repr

/-- What stands at a path. -/
inductive Stored where
  /-- A file that holds a text. -/
  | text (contents : String)
  /-- Something that holds no text. -/
  | unreadable (fault : FileFault)
  /-- Nothing; `obstacle` says what keeps a file from being made there. -/
  | absent (fault : FileFault) (obstacle : Option Obstacle)
  deriving DecidableEq, Repr

namespace Stored

/-- A place where a file can be made. -/
def missing : Stored := .absent .notFound none

/-- The text that a file holds. -/
def read : Stored → Except FileFault String
  | .text contents => .ok contents
  | .unreadable fault => .error fault
  | .absent fault _ => .error fault

/-- What stands at a path after a text was written to it, or what kept it from being written. -/
def create (contents : String) : Stored → Except Obstacle Stored
  | .absent _ (some obstacle) => .error obstacle
  | _ => .ok (.text contents)

/-- What was written can be read. -/
theorem read_of_create {s t : Stored} {contents : String} (h : s.create contents = .ok t) :
    t.read = .ok contents := by
  unfold create at h
  split at h
  · cases h
  · cases h
    rfl

end Stored

end FilterChips
