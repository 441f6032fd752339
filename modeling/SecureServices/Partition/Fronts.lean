import SecureServices.Ec.Fronts
import SecureServices.Partition.Simulation

namespace SecureServices
namespace Partition

open Library Ffa

/-!
# The partition as a front

The services over the relay are fronts of the firmware of the controller.  Put
together with the others and driven by the message loop, over the framing and
the port, they make the calls that the fronts would make with the firmware
itself in the place of the relay.
-/

/-- The node of a service, with the firmware in the place of the relay. -/
def Shipped.front (firmware : Ec.Firmware) : Shipped -> HandlerNode firmware.State
  | .battery =>
      ⟨relayed Ec.Battery.uuid (fun state message => (Ec.Battery.treatment message).carryOut firmware state), ()⟩
  | .thermal =>
      ⟨relayed Ec.Thermal.uuid (fun state message => (Ec.Thermal.treatment message).carryOut firmware state), ()⟩
  | .timeAlarm =>
      ⟨relayed Ec.TimeAlarm.uuid
        (fun state message => (Ec.TimeAlarm.treatment message).carryOut firmware state), ()⟩
  | .fwMgmt => ⟨Partition.fwMgmt, ()⟩
  | .ucsi => ⟨stateless Ucsi.uuid Ucsi.ffaMsgSendDirectReq2, ()⟩
  | .tpmStub => ⟨stateless TpmServiceStub.uuid (fun message => .ok (TpmServiceStub.ffaMsgSendDirectReq2 message)), ()⟩
  | .qemuBattery => ⟨stateless QemuBattery.uuid QemuBattery.ffaMsgSendDirectReq2, ()⟩
  | .notify => ⟨Partition.notify, Notify.Table.new⟩
  | .tpm backend state => ⟨Partition.tpm backend, state⟩

/-- The chain of the fronts. -/
def fronts (firmware : Ec.Firmware) (services : List Shipped) : MessageHandler firmware.State :=
  services.foldl (fun handler service => handler.append (service.front firmware)) MessageHandler.new

section Firmware

variable {R : Type} {mctp : Ec.MctpRs} {controller : Ec.Controller mctp} {firmware : Ec.Firmware}
  {Related : R -> Ec.Direct controller -> Prop} {Stands : controller.State -> firmware.State -> Prop}

variable [Ec.Relay R]

end Firmware

end Partition
end SecureServices
