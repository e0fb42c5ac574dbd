/-!
# Refusals of storage

Why storage does not make what it is asked for, with the number and the sentence
by which each reason is known.
-/

namespace SqlAssembly

/-- Why storage refuses something. -/
inductive Refusal
  /-- Nothing can be made there. -/
  | notPermitted
  /-- A directory on the way is missing. -/
  | missing
  /-- Something of the name is there. -/
  | present
  /-- A part of the way is no directory. -/
  | notDirectory
  /-- A directory is where a file should be. -/
  | isDirectory
  /-- A name or the whole path is too long. -/
  | nameTooLong
  deriving DecidableEq, Repr, Inhabited

namespace Refusal

/-- The number of a refusal. -/
def number : Refusal → Nat
  | .notPermitted => 1
  | .missing => 2
  | .present => 17
  | .notDirectory => 20
  | .isDirectory => 21
  | .nameTooLong => 36

/-- What a refusal says. -/
def sentence : Refusal → String
  | .notPermitted => "Operation not permitted"
  | .missing => "No such file or directory"
  | .present => "File exists"
  | .notDirectory => "Not a directory"
  | .isDirectory => "Is a directory"
  | .nameTooLong => "File name too long"

end Refusal

end SqlAssembly
