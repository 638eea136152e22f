import SchemaTypings.Request

/-! A run of the plugin as a function from the bytes of a request. What goes wrong is told
in the response, so a run never fails. -/
namespace SchemaTypings.Plugin

structure Outcome where
  status : UInt32
  output : List UInt8
  deriving DecidableEq, Repr

def run (input : List UInt8) : Outcome := ⟨0, (Response.ofBytes input).encode⟩

end SchemaTypings.Plugin
