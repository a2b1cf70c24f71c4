import Typeset.CommandLine.Session
import Typeset.Host.Description
import Typeset.Host.System

/-!
The command line. The host that the documents are compiled on is described on the standard input; a
session runs on it, and what it wrote and its exit code are handed on.
-/

namespace Typeset

/-- Hands on what was written, each text to its stream. -/
def writeAll (ws : List Write) : IO Unit := do
  let output ← IO.getStdout
  let errors ← IO.getStderr
  ws.forM fun w => match w.channel with
    | .output => output.putStr w.text
    | .error => errors.putStr w.text

partial def readAll (stream : IO.FS.Stream) (text : String) : IO String := do
  let line ← stream.getLine
  if line.isEmpty then pure text else readAll stream (text ++ line)

/-- The exit status of the process after a session. -/
def CommandLine.Ending.exitStatus : CommandLine.Ending → UInt32
  | .returned n => n.toUInt32
  | .exited n => n.toUInt32
  | .lookupFailed _ => 1
  | .broken _ => 1

def runSession (h : Host) (words : List String) : IO UInt32 := do
  let trace := CommandLine.session Host.world h .posix words
  writeAll (trace.effects.filterMap Effect.write?)
  pure trace.answer.exitStatus

end Typeset

def main (words : List String) : IO UInt32 := do
  match Typeset.Host.ofText (← Typeset.readAll (← IO.getStdin) "") with
  | .error e =>
    (← IO.getStderr).putStrLn ("Error: the description of the host: " ++ e.message)
    pure 2
  | .ok h => Typeset.runSession h words
