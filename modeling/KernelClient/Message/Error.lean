import KernelClient.Message.Shape

/-!
# Errors of messages

What can be wrong with a message or with the frame that carries it.
-/

namespace KernelClient

/-- A fault in the layout of a binary frame. -/
inductive FrameFault where
  | truncatedTable
  | noParts
  | rangeOutside (start stop size : Nat)
  | tooLarge
  | channelRequired
  | offsetCount (count : Nat)
  | endMismatch
  | channelNotText
deriving DecidableEq, Inhabited

def FrameFault.message : FrameFault → String
  | .truncatedTable => "truncated offset table"
  | .noParts => "binary frame without a JSON part"
  | .rangeOutside start stop size =>
      s!"offset range {start}..{stop} outside frame of {size} bytes"
  | .tooLarge => "frame too large for legacy framing"
  | .channelRequired => "v1 framing requires a channel"
  | .offsetCount count => s!"bad v1 offset count {count}"
  | .endMismatch => "v1 end offset does not match frame length"
  | .channelNotText => "channel is not UTF-8"

/-- What is wrong with a message: its shape, its frame, its content for its type, or the text of
its JSON. -/
inductive MessageError where
  | invalid (fault : ShapeFault)
  | malformed (fault : FrameFault)
  | content
  | json
deriving DecidableEq, Inhabited

namespace MessageError

def invalidMessage (reason : String) : String := "Invalid message: " ++ reason

def malformedMessage (reason : String) : String := "Malformed frame: " ++ reason

def message : MessageError → String
  | .invalid fault => invalidMessage fault.message
  | .malformed fault => malformedMessage fault.message
  | .content => "Failed to parse message content"
  | .json => "JSON error"

end MessageError

/-- Check a message and read it. -/
def Message.ofJson (value : Json) (buffers : List Bytes) : Except MessageError Message :=
  match checkShape value with
  | .error fault => .error (.invalid fault)
  | .ok () =>
    match ofJson? value buffers with
    | some message => .ok message
    | none => .error .json

end KernelClient
