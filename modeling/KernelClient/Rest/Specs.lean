import KernelClient.Kernel.Spec
import KernelClient.Rest.Exchange

/-!
# The exchange about kernelspecs
-/

namespace KernelClient.Rest.Specs

def get (settings : Settings) : Exchange KernelSpecs where
  request := Exchange.ask settings .get ["api", "kernelspecs"] none
  read response :=
    if response.status = 200 then
      match response.bodyJson with
      | .error error => (.error error, [])
      | .ok value =>
          let (specs, log) := KernelSpecs.ofJson value
          (Exchange.ofPayload specs, log)
    else Exchange.failure response

end KernelClient.Rest.Specs
