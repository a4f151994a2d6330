import FilterChain.Command.Invocation

/-!
# Entry point

Reads the arguments and, if the command needs it, the input, and writes what the command
answers.
-/

namespace FilterChain

/-- Reads a stream to its end; `read` is what was read before. -/
partial def readToEnd (stream : IO.FS.Stream) (read : ByteArray) : IO ByteArray := do
  let chunk ← stream.read 65536
  if chunk.isEmpty then return read else readToEnd stream (read ++ chunk)

def answer (invocation : Invocation) : IO UInt32 := do
  let input ← if invocation.readsInput then
      pure (String.fromUTF8? (← readToEnd (← IO.getStdin) ByteArray.empty))
    else pure none
  let response := invocation.respond input
  (← IO.getStdout).putStr response.output
  if response.code ≠ 0 then (← IO.getStderr).putStrLn response.errors
  return response.code.toUInt32

end FilterChain

def main (arguments : List String) : IO UInt32 := do
  match FilterChain.Invocation.read arguments with
  | some invocation => FilterChain.answer invocation
  | none =>
    (← IO.getStderr).putStrLn "Usage: pipette <run|check|functions> [OPTIONS]"
    return 2
