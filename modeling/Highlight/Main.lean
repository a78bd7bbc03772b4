import Highlight.CommandLine

/-!
# The program
-/

namespace Highlight

/-- The fault of an action on files. -/
def fileErrorOf : IO.Error → FileError
  | .noFileOrDirectory .. => .notFound
  | .noSuchThing .. => .notFound
  | .inappropriateType .. => .notDirectory
  | .invalidArgument .. => .badPath
  | _ => .notText

/-- Files on disk can be read and listed. -/
instance : FileAccess IO where
  read path := do
    try
      match String.fromUTF8? (← IO.FS.readBinFile path) with
      | some text => return .ok text
      | none => return .error .notText
    catch e => return .error (fileErrorOf e)
  list path := do
    try
      let entries ← (System.mkFilePath [path]).readDir
      return .ok (entries.toList.map fun entry => entry.fileName)
    catch e => return .error (fileErrorOf e)

end Highlight

/-- Prints the tokens of the file named by the arguments. -/
def main (arguments : List String) : IO UInt32 := do
  let env : Highlight.Environment := {
    home := ← IO.getEnv "HOME"
    dataHome := ← IO.getEnv "XDG_DATA_HOME"
    configHome := ← IO.getEnv "XDG_CONFIG_HOME" }
  let outcome ← Highlight.CommandLine.run env arguments
  if outcome.status == 2 then
    IO.eprintln "usage: blackboard-highlight <grammar.json> <theme.json> <file>"
  for line in outcome.output do
    IO.println line
  return outcome.status
