import SecureServices.Library.Words
import SecureServices.Library.Fields
import SecureServices.Library.Chunks
import SecureServices.Library.Run
import SecureServices.Library.Family
import SecureServices.Library.Agree
import SecureServices.Library.Trace
import SecureServices.Library.Allocation
import SecureServices.Library.Slots
import SecureServices.Library.Loop
import SecureServices.Library.Action
import SecureServices.Library.Framing
import SecureServices.Library.Delivery
import SecureServices.Ffa.Types
import SecureServices.Ffa.Smc
import SecureServices.Ffa.DirectMessage
import SecureServices.Ffa.Functions
import SecureServices.Ffa.Codec
import SecureServices.Ffa.ErrorCodes
import SecureServices.Ffa.Console
import SecureServices.Ffa.Calls
import SecureServices.Ec.Relay
import SecureServices.Ec.SerialMedium
import SecureServices.Ec.SerialPort
import SecureServices.Ec.Pairing
import SecureServices.Ec.Shims
import SecureServices.Ec.Parsers
import SecureServices.Ec.Forwarding
import SecureServices.Ec.Envelope
import SecureServices.Ec.Header
import SecureServices.Ec.Lengths
import SecureServices.Ec.Setters
import SecureServices.Ec.SerialFrames
import SecureServices.Ec.Pl011
import SecureServices.Ec.Simulation
import SecureServices.Ec.Controller
import SecureServices.Ec.Pl011Device
import SecureServices.Notify.Model
import SecureServices.Notify.Registry
import SecureServices.Notify.Table
import SecureServices.Notify.Outcome
import SecureServices.Notify.Loops
import SecureServices.Notify.Holding
import SecureServices.Notify.Isolation
import SecureServices.Notify.Atomicity
import SecureServices.Notify.Capacity
import SecureServices.Notify.Progress
import SecureServices.Notify.Cookies
import SecureServices.Notify.WellFormed
import SecureServices.Notify.Batching
import SecureServices.Notify.Refinement
import SecureServices.Notify.Undo
import SecureServices.Notify.Echo
import SecureServices.Notify.Accounting
import SecureServices.Tpm.Model
import SecureServices.Tpm.Effects
import SecureServices.Tpm.Ownership
import SecureServices.Tpm.AccessControl
import SecureServices.Tpm.Plan
import SecureServices.Tpm.Discipline
import SecureServices.Tpm.Registers
import SecureServices.Tpm.Confinement
import SecureServices.Tpm.Backend
import SecureServices.Tpm.Packet
import SecureServices.Tpm.Translation
import SecureServices.Tpm.Transaction
import SecureServices.Tpm.Interference
import SecureServices.Tpm.Handshake
import SecureServices.Tpm.Interfaces
import SecureServices.Tpm.Driver
import SecureServices.Tpm.Arguments
import SecureServices.Tpm.Cleaning
import SecureServices.Tpm.Timeout
import SecureServices.Tpm.FifoTransfer
import SecureServices.Tpm.Reader
import SecureServices.Partition.Services
import SecureServices.Partition.MessageHandler
import SecureServices.Partition.Dispatch
import SecureServices.Partition.MsgLoop
import SecureServices.Partition.Platform
import SecureServices.Partition.Independence
import SecureServices.Partition.Traffic
import SecureServices.Ec.Fronts
import SecureServices.Partition.Simulation
import SecureServices.Partition.Fronts
import SecureServices.Partition.Mailbox
import SecureServices.Espi.Types
import SecureServices.Espi.Registers
import SecureServices.Espi.RoundTrip
import SecureServices.Espi.CycleTypes
import SecureServices.Tpm.Undisturbed
import SecureServices.Tpm.Protocol
import SecureServices.Tpm.Session
import SecureServices.Baremetal.Interrupts
import SecureServices.Baremetal.Logger
import SecureServices.Baremetal.Runtime
