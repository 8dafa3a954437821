import Swell.CommandLine

/-!
# The program

Reads the files that the command line names, runs the command on them, and prints what it gives.
-/
namespace Swell

def FileFault.ofError : IO.Error → FileFault
  | .noFileOrDirectory .. => .notFound
  | .inappropriateType _ 20 _ => .notDirectory
  | .inappropriateType _ 21 _ => .isDirectory
  | .invalidArgument _ 36 _ => .nameTooLong
  | .resourceExhausted _ 36 _ => .nameTooLong
  | .permissionDenied _ code _ => .other "Permission denied" code.toNat
  | .otherError code details => .other details code.toNat
  | error => .other (toString error) 5

def readFile (path : String) : IO (Except FileFault String) := do
  if path.toList.contains '\x00' then
    return .error .nulInPath
  try
    let bytes ← IO.FS.readBinFile path
    match String.fromUTF8? bytes with
    | some text => return .ok text
    | none => return .error .notText
  catch error => return .error (FileFault.ofError error)

end Swell

open Swell in
def main (arguments : List String) : IO UInt32 := do
  let paths := match CommandLine.read arguments with
    | .ok command => command.paths
    | .error _ => []
  let files ← paths.mapM fun path => return (path, ← readFile path)
  let view : FileView := fun path => (files.lookup path).getD (.error .notFound)
  let outcome := CommandLine.execute view arguments
  IO.print (displayed outcome.texts)
  if let some fault := outcome.fault then
    IO.eprint fault.report
  return outcome.exitCode
