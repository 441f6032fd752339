import SecureServices.Ec.Controller
import SecureServices.Ec.Pl011

namespace SecureServices
namespace Ec

open Library

/-!
# A serial line behind a PL011

The device keeps the bytes of the line in its FIFOs.  When the next byte can be
read, when there is room for another one, and what the other flags say, is up
to the surroundings and may change with every access.  A byte that is written
to a full FIFO is lost, and reading an empty one gives anything.

As long as no byte takes longer than the poll budget, the driver does not let
either of these happen, and over the device it does what it does over the line.
-/

/-- What the surroundings decide, for each access. -/
structure Surroundings where
  /-- The polls until the next byte can be read. -/
  untilByte : Nat -> Nat
  /-- The polls until another byte can be written. -/
  untilRoom : Nat -> Nat
  flags : (empty full : Bool) -> Nat -> U32
  rxfe : forall empty full access, flags empty full access &&& frRxfe = 0 <-> empty = false
  txff : forall empty full access, flags empty full access &&& frTxff = 0 <-> full = false
  anything : Nat -> U8

/-- No byte takes longer than a read waits for it. -/
def Surroundings.Timely (surroundings : Surroundings) : Prop :=
  forall access, surroundings.untilByte access < (Pl011Uart.rxPollBudget).toNat

structure Pl011Device (surroundings : Surroundings) {mctp : MctpRs} (controller : Controller mctp) where
  link : Link controller
  untilByte : Nat
  untilRoom : Nat
  accesses : Nat

namespace Pl011Device

variable {surroundings : Surroundings} {mctp : MctpRs} {controller : Controller mctp}

def isEmpty (device : Pl011Device surroundings controller) : Bool :=
  device.link.arriving.isEmpty || decide (device.untilByte ≠ 0)

def isFull (device : Pl011Device surroundings controller) : Bool := decide (device.untilRoom ≠ 0)

/-- One access later. -/
def tick (device : Pl011Device surroundings controller) : Pl011Device surroundings controller :=
  { device with
    untilByte := device.untilByte - 1
    untilRoom := device.untilRoom - 1
    accesses := device.accesses + 1 }

/-- Reading the data register takes the byte that is there. -/
def take (device : Pl011Device surroundings controller) : U8 × Pl011Device surroundings controller :=
  match device.link.arriving with
  | [] => (surroundings.anything device.accesses, device.tick)
  | byte :: arriving =>
      if device.untilByte = 0 then
        (byte, { device.tick with
          link := { device.link with arriving }
          untilByte := surroundings.untilByte device.accesses })
      else (surroundings.anything device.accesses, device.tick)

/-- Writing the data register sends a byte if there is room for it. -/
def put (device : Pl011Device surroundings controller) (byte : U8) : Pl011Device surroundings controller :=
  if device.isFull then device.tick
  else
    { device.tick with
      link := device.link.receive byte
      untilByte := surroundings.untilByte device.accesses
      untilRoom := surroundings.untilRoom device.accesses }

instance : Mmio (Pl011Device surroundings controller) where
  read32 := fun device offset =>
    if offset = uartFr then
      (surroundings.flags device.isEmpty device.isFull device.accesses, device.tick)
    else (0, device.tick)
  read8 := fun device offset =>
    if offset = uartDr then device.take else (surroundings.anything device.accesses, device.tick)
  write8 := fun device offset byte => if offset = uartDr then device.put byte else device.tick

theorem read32_flags (device : Pl011Device surroundings controller) :
    Mmio.read32 device uartFr =
      (surroundings.flags device.isEmpty device.isFull device.accesses, device.tick) := rfl

theorem read8_data (device : Pl011Device surroundings controller) : Mmio.read8 device uartDr = device.take := rfl

theorem write8_data (device : Pl011Device surroundings controller) (byte : U8) :
    Mmio.write8 device uartDr byte = device.put byte := rfl

/-! ## Polling -/

/-- Polling only lets time pass. -/
theorem polled_eq (polls : Nat) (device : Pl011Device surroundings controller) :
    Pl011Uart.polled polls device =
      { device with
        untilByte := device.untilByte - polls
        untilRoom := device.untilRoom - polls
        accesses := device.accesses + polls } := by
  induction polls generalizing device with
  | zero => rfl
  | succ polls inductionHypothesis =>
      rw [Pl011Uart.polled, read32_flags, inductionHypothesis]
      simp only [tick, Nat.sub_sub, Nat.add_comm 1 polls, Nat.add_assoc]

/-- A poll finds a byte if there is one and its time has passed. -/
theorem flags_rxfe (poll : Nat) (device : Pl011Device surroundings controller) :
    Pl011Uart.flags poll device &&& frRxfe = 0 <->
      device.link.arriving ≠ [] ∧ device.untilByte ≤ poll := by
  rw [Pl011Uart.flags, polled_eq, read32_flags, surroundings.rxfe, isEmpty]
  simp only [Bool.or_eq_false_iff, List.isEmpty_eq_false_iff, decide_eq_false_iff_not, ne_eq, not_not,
    Nat.sub_eq_zero_iff_le]

/-- A poll finds room if its time has passed. -/
theorem flags_txff (poll : Nat) (device : Pl011Device surroundings controller) :
    Pl011Uart.flags poll device &&& frTxff = 0 <-> device.untilRoom ≤ poll := by
  rw [Pl011Uart.flags, polled_eq, read32_flags, surroundings.txff, isFull]
  simp only [decide_eq_false_iff_not, ne_eq, not_not, Nat.sub_eq_zero_iff_le]

instance : DrainingMmio (Pl011Device surroundings controller) where
  drains := fun device => ⟨device.untilRoom, (flags_txff _ device).mpr (Nat.le_refl _)⟩

/-! ## The driver over the device -/

/-- The device holds the line, and the next byte comes in time. -/
def Holds (surroundings : Surroundings) (controller : Controller mctp)
    (uart : Pl011Uart (Pl011Device surroundings controller)) (link : Link controller) : Prop :=
  uart.mmio.link = link ∧ uart.mmio.untilByte < (Pl011Uart.rxPollBudget).toNat

theorem readExact_agrees (timely : surroundings.Timely) {uart : Pl011Uart (Pl011Device surroundings controller)}
    {link : Link controller} (holds : Holds surroundings controller uart link) :
    Agree (Holds surroundings controller) (EmbeddedIo.readExact uart) (EmbeddedIo.readExact link) := by
  rcases uart with ⟨device⟩
  rcases holds with ⟨rfl, inTime⟩
  change Agree (Holds surroundings controller) (Pl011Uart.readExact ⟨device⟩) _
  cases arriving : device.link.arriving with
  | nil =>
      have silent := (Pl011Uart.readExact_polls device).2 (fun poll _ found =>
        ((flags_rxfe poll device).mp found).1 arriving)
      rw [silent, polled_eq]
      simp only [EmbeddedIo.readExact, arriving]
      exact ⟨rfl, rfl, Nat.lt_of_le_of_lt (Nat.sub_le _ _) inTime⟩
  | cons byte rest =>
      have found := (Pl011Uart.readExact_polls device).1 device.untilByte inTime
        (fun earlier before found => Nat.not_le_of_lt before ((flags_rxfe earlier device).mp found).2)
        ((flags_rxfe _ device).mpr ⟨by simp [arriving], Nat.le_refl _⟩)
      rw [found, polled_eq, read8_data]
      simp only [EmbeddedIo.readExact, take, arriving, if_pos (Nat.sub_eq_zero_of_le (Nat.le_succ _))]
      exact ⟨rfl, rfl, timely _⟩

/-- The wait for room ends before the byte is written, so that it is sent. -/
theorem write_holds (timely : surroundings.Timely) {device : Pl011Device surroundings controller}
    {link : Link controller} (holds : Holds surroundings controller ⟨device⟩ link) (byte : U8) :
    Holds surroundings controller ⟨Mmio.write8 (Pl011Uart.awaitRoom device) uartDr byte⟩ (link.receive byte) := by
  rcases holds with ⟨rfl, inTime⟩
  have found := (flags_txff _ device).mp (Nat.find_spec (DrainingMmio.drains device))
  have room : (Pl011Uart.awaitRoom device).isFull = false := by
    rw [Pl011Uart.awaitRoom, polled_eq, isFull]
    simp only [decide_eq_false_iff_not, ne_eq, not_not]
    exact Nat.sub_eq_zero_of_le (Nat.le_succ_of_le found)
  rw [write8_data, put, if_neg (by rw [room]; exact Bool.false_ne_true)]
  refine ⟨?_, timely _⟩
  rw [Pl011Uart.awaitRoom, polled_eq]

/-- Over the device the driver returns and takes what it does over the line. -/
theorem agrees (timely : surroundings.Timely) (controller : Controller mctp) :
    PortsAgree (Holds surroundings controller) where
  readExact := fun holds => readExact_agrees timely holds
  writeAll := by
    intro uart link holds packet
    refine ⟨rfl, ?_⟩
    exact List.foldl_rel (r := fun device link => Holds surroundings controller ⟨device⟩ link) holds
      (fun byte _ device link held => write_holds timely held byte)

end Pl011Device

end Ec
end SecureServices
