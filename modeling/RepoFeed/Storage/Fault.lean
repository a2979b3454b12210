/-
What can go wrong with files.
-/

namespace RepoFeed
namespace Storage

inductive Fault where
  | missing
  | exists
  | notDirectory
  | isDirectory
  | busy
  | nameTooLong
  | nulInName
  | notText
  /-- Any other fault, in the words of the system. -/
  | other (message : String)
deriving DecidableEq, Repr

def Fault.message : Fault → String
  | .missing => "No such file or directory (os error 2)"
  | .exists => "File exists (os error 17)"
  | .notDirectory => "Not a directory (os error 20)"
  | .isDirectory => "Is a directory (os error 21)"
  | .busy => "Device or resource busy (os error 16)"
  | .nameTooLong => "File name too long (os error 36)"
  | .nulInName => "file name contained an unexpected NUL byte"
  | .notText => "stream did not contain valid UTF-8"
  | .other message => message

end Storage
end RepoFeed
