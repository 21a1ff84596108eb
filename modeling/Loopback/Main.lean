import Loopback.CommandLine.Run
import Loopback.Logging.Written

/-!
# The command

Looks up the files and the variables that a call asks for, makes the call, and prints what comes
of it.
-/

namespace Loopback.CommandLine

/-- The environment of this process, as far as a call may look at it. -/
def lookUpEnvironment : IO Environment := do
  let mut env : Environment := []
  for name in variableNames do
    if let some value := ← IO.getEnv name then
      env := Environment.set env name (Text.Utf8.encode value.toList)
  return env

/-- The host with a file that may be there. -/
def lookUpFile (host : Host) (path : Path) : IO Host := do
  let place := (← IO.currentDir) / Path.shown path
  if ← place.isDir then
    return { host with files := (host.files.makeDirectories host.storage host.workingDirectory path).2 }
  else
    try
      let content ← IO.FS.readBinFile place
      return (host.writeFile path content.toList).2
    catch _ => return host

/-- The host as far as a call may look at it. -/
def lookUpHost (words : List String) : IO Host := do
  let environment ← lookUpEnvironment
  let directory := Path.ofText (toString (← IO.currentDir))
  let files := (FileTree.empty.makeDirectories .ample [] directory).2
  let host : Host := { environment, files, workingDirectory := Path.names directory }
  (filesOf environment words).foldlM lookUpFile host

/-- Print what comes of a call. -/
def Conclusion.print (conclusion : Conclusion) : IO UInt32 := do
  for event in conclusion.log do
    IO.eprintln (conclusion.format.written event)
  IO.print conclusion.printout.text
  match conclusion.exit with
  | .success => pure ()
  | .failure failure => IO.eprintln ("Error: " ++ failure.text)
  | .misuse misuse => IO.eprint misuse.text
  return UInt32.ofNat conclusion.exit.code

end Loopback.CommandLine

/-- Call the command. -/
def main (words : List String) : IO UInt32 := do
  match Loopback.CommandLine.run? (← Loopback.CommandLine.lookUpHost words) words with
  | some conclusion => conclusion.print
  | none => return 1
