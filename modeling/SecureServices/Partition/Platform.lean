import SecureServices.Ffa.Calls
import SecureServices.Partition.MsgLoop

namespace SecureServices
namespace Partition

open Library Ffa

/-!
# The platforms

The two partitions that are built from the services: `platform/qemu-sp` and
`platform/ihv1-sp`.  Both ask the monitor for its version, and then run the
loop, from which they do not expect to come back.
-/

/-! ## Shared buffers -/

/-- `enum HafEcError`. -/
inductive HafEcError where
  | ok | invalidParameters
deriving DecidableEq, Repr

/-- `HafEcService::map_rxtx_buffers`.  The fields of the service are not touched. -/
def mapRxtxBuffers (txBase rxBase : U64) (pageCount : U32) (world : SmcWorld) : HafEcError × SmcWorld :=
  match (RxTxMap.mk txBase rxBase pageCount).exec world with
  | (.ok _, after) => (.ok, after)
  | (.error _, after) => (.invalidParameters, after)

/-- The buffers are mapped exactly if the monitor accepts the call. -/
theorem mapRxtxBuffers_ok_iff (txBase rxBase : U64) (pageCount : U32) (world : SmcWorld) :
    (mapRxtxBuffers txBase rxBase pageCount world).1 = .ok <->
      isAccepted (world.answer .rxTxMap) = true := by
  have succeeds : forall call : SmcCall, ((fun _ => .ok () : SmcCall -> Except Error Unit) call).isOk = true :=
    fun _ => rfl
  have accepted := exec_isOk succeeds (world.answer .rxTxMap)
  rw [mapRxtxBuffers, RxTxMap.exec, execSimple_of_params rfl, ← accepted]
  cases SmcCall.tryFromResult (world.answer .rxTxMap) with
  | error reason => simp [Except.isOk, Except.toBool]
  | ok call =>
      dsimp only
      cases handleResultSimple call (fun _ => Except.ok ()) with
      | error reason => simp [Except.isOk, Except.toBool]
      | ok _ => simp [Except.isOk, Except.toBool]

/-! ## The services of a platform -/

/-- The services of `qemu-sp`, in the order in which they are appended. -/
def qemuServices : List Shipped := [.thermal, .ucsi, .fwMgmt, .notify, .qemuBattery]

/-- The services of `ihv1-sp`. -/
def ihv1Services : List Shipped := []

variable {R : Type} [Ec.Relay R]

/-- `main` after a number of iterations of the loop: the `unwrap` of the version
and the `expect` of the loop panic. -/
def runMain (services : List Shipped) (env : Env R) (count : Nat) : Progress R :=
  match Version.new.exec env.smc with
  | (.error _, _) => .panicked
  | (.ok _, smc) =>
      match runMessageLoop (assemble services) { env with smc } count with
      | .returned _ _ => .panicked
      | progress => progress

/-- `main` runs exactly when the monitor has a version and the loop runs. -/
theorem runMain_eq_running {services : List Shipped} {env : Env R} {count : Nat} {state : LoopState R} :
    runMain services env count = .running state <->
      exists version smc, Version.new.exec env.smc = (.ok version, smc) ∧
        runMessageLoop (assemble services) { env with smc } count = .running state := by
  unfold runMain
  rcases Version.new.exec env.smc with ⟨reason | version, smc⟩
  · simp
  · have exited : forall progress : Progress R,
        (match progress with
          | .returned _ _ => Progress.panicked
          | progress => progress) = .running state <-> progress = .running state := by
      intro progress
      cases progress <;> simp
    simp [exited]

end Partition
end SecureServices
