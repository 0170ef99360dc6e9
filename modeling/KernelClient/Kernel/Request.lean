import KernelClient.Json.Basic

/-!
# Requests to kernels

The requests that a client makes on the shell channel, with their types and contents.
-/

namespace KernelClient

/-- Code to be executed, and how. -/
structure Execution where
  code : String
  isSilent : Bool
  storesHistory : Bool
  userExpressions : Json
  allowsStdin : Bool
  stopsOnError : Bool
deriving Inhabited

/-- Code that is executed as usual. -/
def Execution.ofCode (code : String) : Execution where
  code := code
  isSilent := false
  storesHistory := true
  userExpressions := .emptyObject
  allowsStdin := true
  stopsOnError := false

inductive KernelRequest where
  | kernelInfo
  | execute (execution : Execution)
  | complete (code : String) (cursor : Nat)
  | inspect (code : String) (cursor detail : Nat)
  | history (content : Json)
  | isComplete (code : String)
  | commInfo (targetName : Option String)
deriving Inhabited

namespace KernelRequest

def msgType : KernelRequest → String
  | .kernelInfo => "kernel_info_request"
  | .execute _ => "execute_request"
  | .complete _ _ => "complete_request"
  | .inspect _ _ _ => "inspect_request"
  | .history _ => "history_request"
  | .isComplete _ => "is_complete_request"
  | .commInfo _ => "comm_info_request"

def content : KernelRequest → Json
  | .kernelInfo => .emptyObject
  | .execute execution => .ofFields [
      ("code", .string execution.code),
      ("silent", .bool execution.isSilent),
      ("store_history", .bool execution.storesHistory),
      ("user_expressions", execution.userExpressions),
      ("allow_stdin", .bool execution.allowsStdin),
      ("stop_on_error", .bool execution.stopsOnError)]
  | .complete code cursor => .ofFields [("code", .string code), ("cursor_pos", .ofNat cursor)]
  | .inspect code cursor detail => .ofFields [
      ("code", .string code), ("cursor_pos", .ofNat cursor), ("detail_level", .ofNat detail)]
  | .history content => content
  | .isComplete code => .ofFields [("code", .string code)]
  | .commInfo (some name) => .ofFields [("target_name", .string name)]
  | .commInfo none => .emptyObject

end KernelRequest

end KernelClient
