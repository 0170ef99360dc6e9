import KernelClient.Message.Error
import KernelClient.Message.Frame.Words

/-!
# Frames

A message travels in one frame of text or of bytes. Two ways of framing are in use, and the server
chooses between them by the subprotocol that it selects.
-/

namespace KernelClient

inductive Frame where
  | text (text : String)
  | binary (bytes : Bytes)
deriving DecidableEq, Inhabited

/-- A way of framing messages. -/
inductive WireProtocol where
  | legacy
  | v1
deriving DecidableEq, Inhabited

namespace WireProtocol

def name : WireProtocol → String
  | .legacy => "legacy"
  | .v1 => "v1"

/-- The subprotocol that stands for the segmented framing. -/
def v1Subprotocol : String := "v1.kernel.websocket.jupyter.org"

/-- The framing for the subprotocol that a server selected. -/
def ofSubprotocol (selected : Option String) : WireProtocol :=
  if selected = some v1Subprotocol then .v1 else .legacy

end WireProtocol

namespace Frame

/-- The bytes of a text. -/
def utf8 (text : String) : Bytes := text.toByteArray.data.toList

/-- The text of bytes that are UTF-8. -/
def ofUtf8? (bytes : Bytes) : Option String := String.fromUTF8? ⟨bytes.toArray⟩

/-- The slices of a frame between consecutive offsets. The bytes given are those from the first
offset on; the whole frame has `size` bytes. -/
def slices (size : Nat) : (offsets : List Nat) → Bytes → Except FrameFault (List Bytes)
  | start :: stop :: rest, data =>
      if start ≤ stop ∧ stop ≤ size then
        (slices size (stop :: rest) (data.drop (stop - start))).map
          (data.take (stop - start) :: ·)
      else .error (.rangeOutside start stop size)
  | _, _ => .ok []

/-- The parts of a frame that consecutive offsets cut out. -/
def cut (data : Bytes) (offsets : List Nat) : Except FrameFault (List Bytes) :=
  slices data.length offsets (data.drop (offsets.headD 0))

end Frame

end KernelClient
