/-!
# The host

* `FileError` : why a file could not be read or written;
* `Host m` : what a program needs from the machine it runs on, with effects in `m`. Tests and proofs
  use a host of their own.
-/

namespace SeriesQuery

inductive FileError where
  | notFound
  | accessDenied
  | notDirectory
  | isDirectory
  /-- The content is not valid UTF-8. -/
  | notText
  | other (message : String)
deriving DecidableEq, Repr

def FileError.message : FileError → String
  | .notFound => "No such file or directory (os error 2)"
  | .accessDenied => "Permission denied (os error 13)"
  | .notDirectory => "Not a directory (os error 20)"
  | .isDirectory => "Is a directory (os error 21)"
  | .notText => "stream did not contain valid UTF-8"
  | .other message => message

structure Host (m : Type → Type) where
  /-- The variables of the environment. -/
  environment : String → Option String
  readText : (path : String) → m (Except FileError String)
  writeText : (path content : String) → m (Except FileError Unit)
  /-- The time in milliseconds. -/
  now : m Int

end SeriesQuery
