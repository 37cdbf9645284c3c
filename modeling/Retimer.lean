import Retimer.Bench.BankedPart
import Retimer.Bench.Board
import Retimer.Bench.Faulty
import Retimer.Bench.ScriptedBus
import Retimer.Bench.ScriptedFactory
import Retimer.Bench.SimulatedPart
import Retimer.Bench.TallyFactory
import Retimer.Proofs.Account
import Retimer.Proofs.Discovery
import Retimer.Proofs.History
import Retimer.Proofs.Identification
import Retimer.Proofs.ModeNumbers
import Retimer.Proofs.Observer.Basic
import Retimer.Proofs.Observer.Diagnostics
import Retimer.Proofs.Observer.Faults
import Retimer.Proofs.Programming
import Retimer.Proofs.Provider.Atomicity
import Retimer.Proofs.Provider.Custody
import Retimer.Proofs.Provider.Locality
import Retimer.Proofs.Provider.Lookup
import Retimer.Proofs.Provider.Renewal
import Retimer.Proofs.Provider.Tally
import Retimer.Proofs.Provider.Traffic
import Retimer.Proofs.Registers.Banks
import Retimer.Proofs.Registers.Hold
import Retimer.Proofs.Registers.Indifference
import Retimer.Proofs.Registers.Isolation
import Retimer.Proofs.Registers.LastWriter
import Retimer.Proofs.Registers.OneWrite
import Retimer.Proofs.Registers.Plain
import Retimer.Proofs.Registers.Simulated
import Retimer.Proofs.Registers.View
import Retimer.Proofs.RingLog.Recovery
import Retimer.Proofs.RingLog.Refinement
import Retimer.Proofs.Session
import Retimer.Proofs.Trace
import Retimer.Session
