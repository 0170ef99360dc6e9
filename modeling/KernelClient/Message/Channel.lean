/-!
# Channels

A kernel has four channels. The names of the channels are those of the wire.
-/

namespace KernelClient

inductive Channel where
  | shell
  | control
  | iopub
  | stdin
deriving DecidableEq, Inhabited

namespace Channel

def name : Channel → String
  | .shell => "shell"
  | .control => "control"
  | .iopub => "iopub"
  | .stdin => "stdin"

def ofName? (name : String) : Option Channel :=
  if name = "shell" then some .shell
  else if name = "control" then some .control
  else if name = "iopub" then some .iopub
  else if name = "stdin" then some .stdin
  else none

theorem ofName?_name (channel : Channel) : ofName? channel.name = some channel := by
  cases channel <;> rfl

end Channel

end KernelClient
