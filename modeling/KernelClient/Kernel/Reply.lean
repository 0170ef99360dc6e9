import KernelClient.Message.Basic

/-!
# Replies

A request is complete once its reply has arrived, or none is expected, and the kernel has gone idle
for it, in either order. The last reply up to then is the result.
-/

namespace KernelClient

/-- What has arrived for a request that is not complete. -/
structure PendingReply where
  key : Nat
  expectsReply : Bool
  reply : Option Message
  isIdle : Bool
deriving Inhabited

namespace PendingReply

def create (key : Nat) (expectsReply : Bool) : PendingReply where
  key := key
  expectsReply := expectsReply
  reply := none
  isIdle := false

/-- Whether a message is a reply on a channel for replies. -/
def isReply (message : Message) : Bool :=
  (message.channel = some .shell || message.channel = some .control) &&
    message.msgType.endsWith "_reply"

/-- Whether a message says that the kernel is idle. -/
def saysIdle (message : Message) : Bool :=
  message.channel = some .iopub && message.executionState? = some "idle"

/-- Take note of a message that answers the request. -/
def note (pending : PendingReply) (message : Message) : PendingReply :=
  if isReply message then { pending with reply := some message }
  else if saysIdle message then { pending with isIdle := true }
  else pending

@[simp]
theorem note_key (pending : PendingReply) (message : Message) :
    (pending.note message).key = pending.key := by
  unfold note
  split
  · rfl
  · split <;> rfl

def isComplete (pending : PendingReply) : Bool :=
  pending.isIdle && (pending.reply.isSome || !pending.expectsReply)

end PendingReply

end KernelClient
