/-! # File faults

What can go wrong when a file is read or written, and the words for it. -/

namespace Tablewright

/-- Why a file operation fails. -/
inductive FileFault where
  | missing
  | present
  | notDirectory
  | isDirectory
  | nameTooLong
  /-- The name of a file holds a null character. -/
  | nullInName
  /-- The bytes of a file are no text. -/
  | notText
  /-- Any other fault, in the words of the system. -/
  | other (words : String)
  deriving DecidableEq, Inhabited

namespace FileFault

/-- The wording of a fault, with its number where it has one. -/
def message : FileFault → String
  | missing => "No such file or directory (os error 2)"
  | present => "File exists (os error 17)"
  | notDirectory => "Not a directory (os error 20)"
  | isDirectory => "Is a directory (os error 21)"
  | nameTooLong => "File name too long (os error 36)"
  | nullInName => "file name contained an unexpected NUL byte"
  | notText => "stream did not contain valid UTF-8"
  | other words => words

/-- Does the fault say that nothing stands at the path? -/
def saysAbsent : FileFault → Bool
  | missing | notDirectory | nameTooLong | nullInName => true
  | present | isDirectory | notText | other _ => false

end FileFault

end Tablewright
