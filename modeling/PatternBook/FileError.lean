import PatternBook.Text.Basic

/-!
# File errors

The ways in which an operation on files fails, and how each is told to the user.
-/

namespace PatternBook

/-- Why an operation on a file or a directory failed. -/
inductive FileError where
  | notFound
  | denied
  | alreadyExists
  | notDirectory
  | isDirectory
  | nameTooLong
  | notUtf8
  | other (code : Nat)
  deriving DecidableEq

namespace FileError

/-- The message of a failure that the operating system numbers. -/
def numbered (text : String) (code : Nat) : Text :=
  text.toList ++ " (os error ".toList ++ Text.decimal code ++ [')']

/-- The message of a failure. -/
def message : FileError → Text
  | notFound => numbered "No such file or directory" 2
  | denied => numbered "Permission denied" 13
  | alreadyExists => numbered "File exists" 17
  | notDirectory => numbered "Not a directory" 20
  | isDirectory => numbered "Is a directory" 21
  | nameTooLong => numbered "File name too long" 36
  | notUtf8 => "stream did not contain valid UTF-8".toList
  | other code => numbered "Input/output error" code

/-- The failure that the operating system numbers so. -/
def ofCode (code : Nat) : FileError :=
  match code with
  | 2 => notFound
  | 13 => denied
  | 17 => alreadyExists
  | 20 => notDirectory
  | 21 => isDirectory
  | 36 => nameTooLong
  | _ => other code

end FileError

end PatternBook
