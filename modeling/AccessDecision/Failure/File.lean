import AccessDecision.Text.Quoted

/-!
# Files that cannot be used

A path may lead nowhere, or to something that is no file, or may be too long; a number
in place of a path is the descriptor of an open file, and no file is open.  A file that
is found may still hold octets that are no text.
-/

namespace AccessDecision

/-- Why a file cannot be opened or read. -/
inductive FileFault where
  | missing (path : String)
  | notDirectory (path : String)
  | isDirectory (path : String)
  | tooLong (path : String)
  | nullInPath
  | negativeDescriptor
  | badDescriptor
  | illFormed
deriving DecidableEq

/-- The text for a file that cannot be used.  Octets that are no text have none. -/
def FileFault.message : FileFault → String
  | .missing path => "[Errno 2] No such file or directory: " ++ Text.quoted path
  | .notDirectory path => "[Errno 20] Not a directory: " ++ Text.quoted path
  | .isDirectory path => "[Errno 21] Is a directory: " ++ Text.quoted path
  | .tooLong path => "[Errno 36] File name too long: " ++ Text.quoted path
  | .nullInPath => "embedded null byte"
  | .negativeDescriptor => "negative file descriptor"
  | .badDescriptor => "[Errno 9] Bad file descriptor"
  | .illFormed => ""

end AccessDecision
