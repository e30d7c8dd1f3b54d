import TrapDispatch.Board
import TrapDispatch.Uart
import TrapDispatch.Proofs.Actions
import TrapDispatch.Proofs.Dispatch
import TrapDispatch.Proofs.Reporting
import TrapDispatch.Proofs.DiagnosticLine
import TrapDispatch.Proofs.CauseNames
import TrapDispatch.Proofs.LineDecoding
import TrapDispatch.Proofs.SavedRegisters
import TrapDispatch.Proofs.WholeTrap
import TrapDispatch.Proofs.HartPorts
import TrapDispatch.Proofs.PortRuntime
import TrapDispatch.Proofs.MixedRuns
import TrapDispatch.Proofs.TableHistory
import TrapDispatch.Proofs.TableOperations
import TrapDispatch.Proofs.SelfTestHistory
import TrapDispatch.Proofs.SharedTable
import TrapDispatch.Proofs.HartIsolation
import TrapDispatch.Proofs.InterruptEnables
import TrapDispatch.Proofs.RingContents
import TrapDispatch.Proofs.RingHistory
import TrapDispatch.Proofs.CaptureSearch
import TrapDispatch.Proofs.SerialHistory
import TrapDispatch.Proofs.SuiteHistory
import TrapDispatch.Proofs.Settings
import TrapDispatch.Proofs.SelfTestCases
import TrapDispatch.Proofs.TimerWait
import TrapDispatch.Proofs.SelfTestVerdict
import TrapDispatch.Proofs.ResumeWalk
import TrapDispatch.Proofs.FrameStore
import TrapDispatch.Proofs.CapturedReport
import TrapDispatch.Proofs.CriticalSections
import TrapDispatch.Proofs.CodeWords
import TrapDispatch.Proofs.CheckedSteps
import TrapDispatch.Proofs.FaultFreedom
import TrapDispatch.Proofs.CourseHistories
import TrapDispatch.Proofs.Ledgers
import TrapDispatch.Proofs.SecondarySetups
import TrapDispatch.Proofs.SilentConsole
import TrapDispatch.Proofs.TracedHistories
import TrapDispatch.Proofs.Courses
