import FreeRadiusDebug.CLib
import FreeRadiusDebug.Fault.Subst
import FreeRadiusDebug.Policy.Dumpable
import FreeRadiusDebug.Fault.Controller
import FreeRadiusDebug.Fault.Lemmas.Setup
import FreeRadiusDebug.Fault.Lemmas.Handler
import FreeRadiusDebug.Fault.Theorems
import FreeRadiusDebug.Probe.DebugBreak
import FreeRadiusDebug.Backtrace.Registry
import FreeRadiusDebug.Backtrace.Attach
import FreeRadiusDebug.Verify.Pair
import FreeRadiusDebug.Talloc.Report
import FreeRadiusDebug.System.Process
import FreeRadiusDebug.System.Lemmas.Step
import FreeRadiusDebug.System.Lemmas.Invariant
import FreeRadiusDebug.System.Theorems
