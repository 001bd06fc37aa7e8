import ProtoTypings.Plugin.Respond

/-!
# Main

The plugin: reads a request from standard input and writes the response to standard output. If the
input is no request, nothing is written, and the exit code is 1.
-/

namespace ProtoTypings

/-- The most bytes that one read asks for. -/
def chunkSize : USize := 65536

/-- All bytes up to the end of a stream. -/
def readToEnd (stream : IO.FS.Stream) : IO ByteArray := do
  let mut bytes := ByteArray.empty
  repeat
    let chunk ← stream.read chunkSize
    if chunk.isEmpty then break
    bytes := bytes ++ chunk
  return bytes

end ProtoTypings

def main : IO UInt32 := do
  let input ← ProtoTypings.readToEnd (← IO.getStdin)
  let outcome := ProtoTypings.Plugin.outcome input.data.toList
  if let some complaint := outcome.complaint then
    (← IO.getStderr).putStrLn complaint
  let stdout ← IO.getStdout
  stdout.write ⟨outcome.output.toArray⟩
  stdout.flush
  return outcome.exitCode
