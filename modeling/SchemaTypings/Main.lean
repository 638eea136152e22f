import SchemaTypings.Plugin

/-! The command line: a run of the plugin on standard input and standard output. -/
namespace SchemaTypings

/-- All that is left to read, after `bytes`. -/
partial def readAll (stream : IO.FS.Stream) (bytes : ByteArray) : IO ByteArray := do
  let block ← stream.read 65536
  if block.isEmpty then pure bytes else readAll stream (bytes ++ block)

end SchemaTypings

def main : IO UInt32 := do
  let input ← SchemaTypings.readAll (← IO.getStdin) .empty
  let outcome := SchemaTypings.Plugin.run input.data.toList
  let stdout ← IO.getStdout
  stdout.write ⟨outcome.output.toArray⟩
  stdout.flush
  pure outcome.status
