import Swell.Text.Pieces

/-!
# Files

What a reading of a file can give. The program looks at files only through a view, which says for
each path what reading there gives.
-/
namespace Swell

inductive FileFault where
  | notFound
  | notDirectory
  | isDirectory
  | nameTooLong
  /-- Any other fault, in the words and with the number of the system. -/
  | other (text : String) (code : Nat)
  /-- A path holds the character that ends names in the system. -/
  | nulInPath
  | notText
  deriving Repr, DecidableEq

namespace FileFault

private def numbered (text : String) (code : Nat) : String :=
  text ++ " (os error " ++ toString code ++ ")"

def message : FileFault → String
  | .notFound => numbered "No such file or directory" 2
  | .notDirectory => numbered "Not a directory" 20
  | .isDirectory => numbered "Is a directory" 21
  | .nameTooLong => numbered "File name too long" 36
  | .other text code => numbered text code
  | .nulInPath => "file name contained an unexpected NUL byte"
  | .notText => "stream did not contain valid UTF-8"

end FileFault

/-- What reading the file at a path gives. -/
abbrev FileView := String → Except FileFault String

/-- The name at the end of a path. Slashes and lone points behind it do not count; a step upwards
has no name. -/
def fileName? (path : String) : Option String :=
  match ((Text.pieces '/' path).filter fun piece => piece != "" && piece != ".").getLast? with
  | some ".." => none
  | name? => name?

end Swell
