import DocumentQuery.Text.Split

/-!
Text files: what there is under a path, why it cannot be read, and the names in a path.
-/

namespace DocumentQuery

/-! ## Failures -/

/-- Why a file cannot be read as text. -/
inductive ReadFailure
  | notFound
  | permissionDenied
  | notADirectory
  | isADirectory
  | nameTooLong
  | tooManyLinks
  | invalidUtf8
  | other (text : String)
  deriving DecidableEq

namespace ReadFailure

/-- The text of a failure. -/
def message : ReadFailure → String
  | notFound => "No such file or directory (os error 2)"
  | permissionDenied => "Permission denied (os error 13)"
  | notADirectory => "Not a directory (os error 20)"
  | isADirectory => "Is a directory (os error 21)"
  | nameTooLong => "File name too long (os error 36)"
  | tooManyLinks => "Too many levels of symbolic links (os error 40)"
  | invalidUtf8 => "stream did not contain valid UTF-8"
  | other text => text

end ReadFailure

/-- The text in some bytes. -/
def decodeUtf8 (bytes : ByteArray) : Except ReadFailure String :=
  match String.fromUTF8? bytes with
  | some text => .ok text
  | none => .error .invalidUtf8

/-! ## Look-ups -/

/-- What there is under a path. Whether the path leads somewhere is a question of its own: the same
failure may mean that it does not, or come from a file that is there and cannot be read. -/
inductive FileLookup
  /-- The path leads nowhere; the failure is that of reading it all the same. -/
  | absent (failure : ReadFailure)
  /-- The path leads somewhere, with the result of reading what is there. -/
  | present (content : Except ReadFailure String)

/-- The result of reading what is under the path. -/
def FileLookup.content : FileLookup → Except ReadFailure String
  | absent failure => .error failure
  | present content => content

/-! ## Paths -/

/-- The most bytes that a path can have. -/
def longestPath : Nat := 4095

/-- The most bytes that a name in a path can have. -/
def longestName : Nat := 255

/-- The names in a path. -/
def pathNames (path : String) : List String :=
  (Text.pieces '/' path).filter (· ≠ "")

end DocumentQuery
