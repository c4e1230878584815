import FreeRadiusDebug.Fault.Lemmas.Handler
import FreeRadiusDebug.Talloc.Report

/-!
# プロセス全体の状態機械

`debug.c` の静的な変数（`panic_action`、`setup`、`panic_cb`、`core_limits`、`fr_fault_log`、`fr_fault_log_fd`）と、
`fr_fault_setup` が登録するシグナルの処理と talloc のフックを一つの状態にまとめ、公開の関数の呼び出し、シグナルの
配達、talloc が呼ぶフックを、その上の一歩として書く。`fr_fault` はシグナルの処理からだけでなく、
`fr_panic_on_free` の印の解放と talloc の abort からも呼ばれる。カーネルは一つで、`fr_set_dumpable` と
`fr_fault` の両方がその dumpable 属性を読み書きする。

`fr_fault_log` は NULL で始まり、`fr_fault_setup` は六つのシグナルをすべて登録できたときにだけ既定の関数を入れる。
そのため 0 を返した `fr_fault_setup` の後は NULL に戻らない（`SetupInv`）が、途中で `fr_set_signal` が失敗すると、
`SIGSEGV` は `fr_fault` に向いたまま `fr_fault_log` は NULL で残る。
-/

namespace FreeRadiusDebug

/-! ## 状態 -/

/-- `fr_fault_log` が指す関数。 -/
inductive LogFn where
  /-- `_fr_fault_log`：`stderr` に書く。 -/
  | stderr
  /-- `fr_fault_set_log_fn` に渡された関数。 -/
  | user (id : Nat)
  deriving DecidableEq

/-- 障害の処理の状態の外にある、ログと talloc のフック。 -/
structure Hooks where
  /-- `static fr_fault_log_t fr_fault_log`。`none` は NULL。 -/
  logFn : Option LogFn
  /-- `static int fr_fault_log_fd`。 -/
  logFd : Int
  /-- `talloc_set_abort_fn(_fr_talloc_fault)` を呼んだ。 -/
  tallocAbort : Bool
  /-- `talloc_set_log_fn(_fr_talloc_log)` を呼んだ。 -/
  tallocLog : Bool

/-- プロセスの始まり：`fr_fault_log` は NULL、`fr_fault_log_fd` は `STDERR_FILENO`。 -/
def Hooks.init : Hooks := ⟨none, 2, false, false⟩

/-- プロセス全体の状態。 -/
structure DebugState where
  fault : FaultState
  /-- `static struct rlimit core_limits`。 -/
  coreLimits : RLimit
  hooks : Hooks

/-- プロセスの始まり：静的な変数は 0 で、カーネルは `k`。 -/
def DebugState.init (k : Kernel) : DebugState := ⟨FaultState.init k, ⟨0, 0⟩, Hooks.init⟩

/-- `fr_set_dumpable_init` と `fr_set_dumpable` が読み書きする部分。 -/
def DebugState.dump (s : DebugState) : DumpState := ⟨s.fault.kernel, s.coreLimits⟩

def DebugState.withDump (s : DebugState) (d : DumpState) : DebugState :=
  { s with fault := { s.fault with kernel := d.kernel }, coreLimits := d.coreLimits }

/-- プロセスの外の世界。 -/
structure SysEnv where
  env : Env
  report : ReportEnv

/-! ## `fr_fault_setup` のフックと `fr_fault_set_log_*` -/

/-- `fr_fault_setup` の登録の部分で `fr_set_signal` が成功したシグナル：最初に失敗したシグナルの手前まで。 -/
def installedSignals (env : Env) : List (Int × Handler) → List Int
  | [] => []
  | (sig, _) :: rest =>
      match env.setSignal sig with
      | some _ => []
      | none => sig :: installedSignals env rest

/-- `fr_fault_setup` が `if (!setup)` の中に入る：`panic_action` を書けて、検査が通り、まだ登録していない。 -/
def setupBlockRuns (env : Env) (st : FaultState) (cmd program : Option CStr) : Bool :=
  match writePanicAction st.panicAction cmd program with
  | .error _ => false
  | .ok m =>
      match frFaultCheckPermissions env.stat (readStr m 0 panicActionSize) with
      | .error _ => false
      | .ok () => !st.setup

/-- `if (!setup)` の中のフック：`SIGABRT` まで登録できれば `talloc_set_abort_fn`、六つとも登録できれば、
`fr_fault_log` が NULL のときの既定の関数と `talloc_set_log_fn`。 -/
def setupHooks (env : Env) (h : Hooks) : Hooks :=
  if (installedSignals env setupSignals).length = setupSignals.length then
    { h with logFn := some (h.logFn.getD .stderr), tallocAbort := true, tallocLog := true }
  else { h with tallocAbort := h.tallocAbort || decide (SIGABRT ∈ installedSignals env setupSignals) }

/-- `fr_fault_setup(cmd, program)` のプロセス全体への効果。 -/
def frFaultSetupSys (env : Env) (s : DebugState) (cmd program : Option CStr) : Except String Unit × DebugState :=
  let r := frFaultSetup env s.fault cmd program
  (r.1, { s with
    fault := r.2
    hooks := if setupBlockRuns env s.fault cmd program then setupHooks env s.hooks else s.hooks })

/-- `fr_fault_set_log_fn`：NULL を渡せば既定の `_fr_fault_log` に戻す。 -/
def frFaultSetLogFn (h : Hooks) (func : Option LogFn) : Hooks := { h with logFn := some (func.getD .stderr) }

/-- `fr_fault_set_log_fd`。 -/
def frFaultSetLogFd (h : Hooks) (fd : Int) : Hooks := { h with logFd := fd }

/-! ## 一歩 -/

/-- プロセスで起きる事。 -/
inductive SysEvent where
  /-- 公開の関数が返した値。 -/
  | ret (code : Int)
  /-- `fr_fault` のする事。 -/
  | fault (e : FaultEvent)
  /-- NULL の `fr_fault_log` を呼ぶ：プロセスは壊れて終わる。 -/
  | nullLog
  /-- 既定の処理でシグナルがプロセスを終える。 -/
  | killed (sig : Int)
  /-- `_fr_fault_mem_report` の `CAUGHT SIGNAL: %s`。 -/
  | memCaught (sig : Int)
  /-- `fr_log_talloc_report` の入出力。 -/
  | report (io : ReportIo)
  /-- `fr_perror(msg)`。 -/
  | perror (msg : String)
  /-- `_fr_talloc_fault` の `talloc abort: %s`。 -/
  | tallocAbortLog
  /-- `_fr_talloc_log` が書く talloc のログの行。 -/
  | tallocLogLine
  /-- `_panic_on_free` が -1 を返し、解放は止まる。 -/
  | freeRefused
  deriving DecidableEq

/-- C の戻り値：成功は 0、失敗は -1。 -/
def retCode : Except String Unit → Int
  | .ok () => 0
  | .error _ => -1

/-- `fr_fault` の事象のうちプロセスを終えるもの。 -/
def FaultEvent.isExit : FaultEvent → Bool
  | .exit _ => true
  | _ => false

/-- `fr_fault(sig)` を走らせる。`fr_fault_log` が NULL なら、最初の `FR_FAULT_LOG` で NULL を呼んで壊れる。
`fr_exit_now` に行けばプロセスは終わる。 -/
def runFault (env : Env) (s : DebugState) (sig : Int) : List SysEvent × Option DebugState :=
  match s.hooks.logFn with
  | none => ([.nullLog], none)
  | some _ =>
      let r := frFault env s.fault sig
      (r.1.map .fault, if r.1.any FaultEvent.isExit then none else some { s with fault := r.2 })

/-- `_fr_fault_mem_report(sig)`：`CAUGHT SIGNAL` を書いて `fr_log_talloc_report(NULL)` を呼び、失敗すれば
`fr_perror("memreport")`。 -/
def memReport (renv : ReportEnv) (s : DebugState) (sig : Int) : List SysEvent × Option DebugState :=
  match s.hooks.logFn with
  | none => ([.nullLog], none)
  | some _ =>
      let r := frLogTallocReport renv s.hooks.logFd none
      match r.2 with
      | .ok () => (.memCaught sig :: r.1.map .report, some s)
      | .error e =>
          (.memCaught sig :: r.1.map .report ++ [.perror "memreport"],
            some { s with fault := { s.fault with strerror := e } })

/-- シグナル `sig` の配達：登録した処理を呼ぶ。既定の処理ならプロセスは終わる。 -/
def deliver (e : SysEnv) (s : DebugState) (sig : Int) : List SysEvent × Option DebugState :=
  match s.fault.handlers sig with
  | .dfl => ([.killed sig], none)
  | .frFault => runFault e.env s sig
  | .memReport => memReport e.report s sig

/-- `talloc_abort`：`_fr_talloc_fault` を登録していれば `talloc abort: %s` を書いて `fr_fault(SIGABRT)` を呼ぶ。
なければ talloc は `abort()` し、`SIGABRT` が届く。 -/
def tallocAbort (e : SysEnv) (s : DebugState) : List SysEvent × Option DebugState :=
  if s.hooks.tallocAbort then
    match s.hooks.logFn with
    | none => ([.nullLog], none)
    | some _ =>
        let r := runFault e.env s SIGABRT
        (.tallocAbortLog :: r.1, r.2)
  else deliver e s SIGABRT

/-- talloc がログを書く：`_fr_talloc_log` を登録していれば `fr_fault_log` に渡す。なければ talloc は何も
しない。 -/
def tallocLog (s : DebugState) : List SysEvent × Option DebugState :=
  if s.hooks.tallocLog then
    match s.hooks.logFn with
    | none => ([.nullLog], none)
    | some _ => ([.tallocLogLine], some s)
  else ([], some s)

/-- `fr_panic_on_free` で印を付けた文脈の解放：`_panic_on_free` は `fr_fault(SIGUSR1)` を呼び、-1 を返して
解放を止める。 -/
def panicFree (env : Env) (s : DebugState) : List SysEvent × Option DebugState :=
  let r := runFault env s SIGUSR1
  match r.2 with
  | none => r
  | some s' => (r.1 ++ [.freeRefused], some s')

/-- `fr_fault_setup` が処理を登録するシグナル。どれも既定の処理（`SIG_DFL`）はプロセスを終える。 -/
def FaultSignal : Type := {sig : Int // sig ∈ setupSignals.map Prod.fst}

/-- プロセスに起きる事。 -/
inductive DebugOp where
  | faultSetup (cmd program : Option CStr)
  | faultSetCb (func : Option (Int → Int))
  | faultSetLogFn (func : Option LogFn)
  | faultSetLogFd (fd : Int)
  | setDumpableInit
  | setDumpable (allow : Bool)
  /-- カーネルがシグナルを届ける。 -/
  | signal (sig : FaultSignal)
  /-- `fr_panic_on_free` で印を付けた文脈を解放する。 -/
  | panicFree
  /-- talloc が壊れた塊を見つける。 -/
  | tallocAbort
  /-- talloc がログを書く。 -/
  | tallocLog

/-- 一歩：起きた事と、プロセスが続いていれば次の状態。失敗した公開の関数は `fr_strerror` に文字列を残す。 -/
def debugStep (e : SysEnv) (s : DebugState) : DebugOp → List SysEvent × Option DebugState
  | .faultSetup cmd program =>
      let r := frFaultSetupSys e.env s cmd program
      ([.ret (retCode r.1)], some r.2)
  | .faultSetCb func => ([], some { s with fault := frFaultSetCb s.fault func })
  | .faultSetLogFn func => ([], some { s with hooks := frFaultSetLogFn s.hooks func })
  | .faultSetLogFd fd => ([], some { s with hooks := frFaultSetLogFd s.hooks fd })
  | .setDumpableInit =>
      match frSetDumpableInit e.env.caps s.dump with
      | .ok d => ([.ret 0], some (s.withDump d))
      | .error err => ([.ret (-1)], some { s with fault := { s.fault with strerror := err } })
  | .setDumpable allow =>
      let r := frSetDumpable e.env.caps s.dump allow
      let s' := s.withDump r.2
      match r.1 with
      | .ok () => ([.ret 0], some s')
      | .error err => ([.ret (-1)], some { s' with fault := { s'.fault with strerror := err } })
  | .signal sig => deliver e s sig.val
  | .panicFree => panicFree e.env s
  | .tallocAbort => tallocAbort e s
  | .tallocLog => tallocLog s

/-- 始まりからたどれる状態。 -/
inductive DebugReach (e : SysEnv) : DebugState → Prop where
  | init (k : Kernel) : DebugReach e (DebugState.init k)
  | step {s s' : DebugState} (op : DebugOp) : DebugReach e s → (debugStep e s op).2 = some s' → DebugReach e s'

/-- 事の列を順に起こす。プロセスが終われば、そこで止まる。 -/
def debugRun (e : SysEnv) : DebugState → List DebugOp → List SysEvent × Option DebugState
  | s, [] => ([], some s)
  | s, op :: ops =>
      let r := debugStep e s op
      match r.2 with
      | none => (r.1, none)
      | some s' =>
          let r' := debugRun e s' ops
          (r.1 ++ r'.1, r'.2)

end FreeRadiusDebug
