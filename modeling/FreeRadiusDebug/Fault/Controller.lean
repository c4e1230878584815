import FreeRadiusDebug.Fault.Subst
import FreeRadiusDebug.Policy.Dumpable

/-!
# 障害の処理（Fault Controller）

`fr_fault_check_permissions`、`fr_fault_setup`、`fr_fault` を、`debug.c` の静的な変数とカーネルの状態の上の
関数として書く。外の世界（`stat`、`fr_set_signal`、`getpid`、`system`、登録されたコールバック）は `Env` と
状態が与える。`fr_fault` がする事（ログの行、`system`、`fr_exit_now`）は、起きた順の事象の列として返す。
バックトレースの表示は状態を変えないので写さない。
-/

namespace FreeRadiusDebug

/-! ## 定数と環境 -/

/-- シグナルの番号（Linux）。 -/
def SIGABRT : Int := 6
def SIGBUS : Int := 7
def SIGFPE : Int := 8
def SIGUSR1 : Int := 10
def SIGSEGV : Int := 11
def SIGUSR2 : Int := 12

/-- `S_IWOTH`。 -/
def S_IWOTH : Nat := 2

/-- `sizeof(panic_action)`。 -/
def panicActionSize : Nat := 512

/-- `fr_fault` の `sizeof(cmd)`：`sizeof(panic_action) + 20`。 -/
def cmdSize : Nat := panicActionSize + 20

/-- 障害の処理から見た外の世界。 -/
structure Env where
  /-- `stat(path)` が成功したときの `st_mode`。 -/
  stat : List Char → Option Nat
  /-- `fr_set_signal(sig, ...)` が失敗したときに `fr_strerror` に残す文字列。 -/
  setSignal : Int → Option String
  /-- `getpid()`。 -/
  pid : Nat
  /-- `system(cmd)` の戻り値。 -/
  system : List Char → Int
  /-- `prctl` などの成否。 -/
  caps : Caps
  /-- `fr_fault` の `cmd` のまわりのスタックのメモリ。`cmd` の 532 バイトの外の番地で読む。 -/
  stack : Mem

/-- シグナルの処理。 -/
inductive Handler where
  | dfl
  | frFault
  | memReport
  deriving DecidableEq

/-- `debug.c` の静的な変数のうち障害の処理が読み書きするものと、カーネルの状態。 -/
structure FaultState where
  /-- `static char panic_action[512]`。512 以上の番地は配列の後ろのメモリ。 -/
  panicAction : Mem
  /-- `fr_fault_setup` の `static bool setup`。 -/
  setup : Bool
  /-- シグナルごとに登録した処理。 -/
  handlers : Int → Handler
  /-- `panic_cb`。 -/
  panicCb : Option (Int → Int)
  /-- `fr_strerror()` が返す最後のエラーの文字列。 -/
  strerror : String
  kernel : Kernel

/-- プロセスの始まり：静的な変数は 0 で、シグナルの処理は既定のまま。 -/
def FaultState.init (k : Kernel) : FaultState := ⟨fun _ => '\x00', false, fun _ => .dfl, none, "", k⟩

/-- `panic_action` に入っている C の文字列。 -/
def FaultState.panicStr (st : FaultState) : List Char := readStr st.panicAction 0 panicActionSize

/-! ## `fr_fault_check_permissions` -/

/-- `is_truncated(len, size)`（libradius.h のマクロで、src/ にはない）：`snprintf` の戻り値が大きさ以上なら
切り詰めが起きた。 -/
def isTruncated (len size : Nat) : Bool := decide (size ≤ len)

/-- `fr_fault_check_permissions` が `stat` に渡す名前：最初の空白の手前を `filename[256]` に写したもの。 -/
def permissionsPath (pa : List Char) : Except String (List Char) :=
  match strchr pa ' ' with
  | some q =>
      let out := precStr (toCInt q) pa
      if isTruncated (sizeOfRet out.length) 256 then
        .error "Failed writing panic_action to temporary buffer (truncated)"
      else .ok (out.take 255)
  | none => .ok pa

/-- `stat(p)` の結果の検査：成功して `S_IWOTH` が立っていれば断る。 -/
def checkMode (p : List Char) : Option Nat → Except String Unit
  | some mode =>
      if mode &&& S_IWOTH ≠ 0 then .error ("panic_action file \"" ++ String.mk p ++ "\" is globally writable")
      else .ok ()
  | none => .ok ()

/-- `fr_fault_check_permissions`：実行するファイルとみなした名前が、あって誰でも書けるなら断る。 -/
def frFaultCheckPermissions (stat : List Char → Option Nat) (pa : List Char) : Except String Unit :=
  match permissionsPath pa with
  | .error e => .error e
  | .ok p => checkMode p (stat p)

/-! ## `fr_fault_setup` -/

/-- `fr_fault_setup` が登録するシグナルと処理（`#ifdef` の順）。 -/
def setupSignals : List (Int × Handler) :=
  [(SIGSEGV, .frFault), (SIGBUS, .frFault), (SIGABRT, .frFault), (SIGFPE, .frFault),
    (SIGUSR1, .frFault), (SIGUSR2, .memReport)]

/-- シグナルの処理を順に登録する。`fr_set_signal` が失敗すれば、その文字列で止まる。 -/
def installHandlers (env : Env) : List (Int × Handler) → (Int → Handler) → Option String × (Int → Handler)
  | [], h => (none, h)
  | (sig, hd) :: rest, h =>
      match env.setSignal sig with
      | some e => (some e, h)
      | none => installHandlers env rest (Function.update h sig hd)

/-- `fr_fault_setup` の `%e` の置き換え：`panic_action` の 512 バイトに書く。 -/
def expandProgram (pa : Mem) (program : List Char) (cmd : List Char) : Except Mem Mem :=
  substLoop 'e' program ⟨pa, 0, panicActionSize, cmd⟩

/-- `fr_fault_setup` の、`panic_action` を書いた後の部分：調べて、初めてならシグナルの処理を登録する。 -/
def setupRest (env : Env) (st : FaultState) : Except String Unit × FaultState :=
  match frFaultCheckPermissions env.stat st.panicStr with
  | .error e => (.error e, { st with strerror := e })
  | .ok () =>
      if st.setup then (.ok (), st)
      else
        match installHandlers env setupSignals st.handlers with
        | (some e, h) => (.error e, { st with handlers := h, strerror := e })
        | (none, h) => (.ok (), { st with handlers := h, setup := true })

/-- `fr_fault_setup` の前半：`cmd` の `%e` を `program`（NULL なら空の文字列）に置き換えて `panic_action` に
書く。`cmd` が NULL なら `panic_action` を空にする。 -/
def writePanicAction (pa : Mem) (cmd program : Option CStr) : Except Mem Mem :=
  match cmd with
  | some c => expandProgram pa ((program.map CStr.chars).getD []) c.chars
  | none => .ok (pa.write 0 ['\x00'])

/-- `fr_fault_setup(cmd, program)`。 -/
def frFaultSetup (env : Env) (st : FaultState) (cmd program : Option CStr) : Except String Unit × FaultState :=
  match writePanicAction st.panicAction cmd program with
  | .error m =>
      (.error "Panic action too long", { st with panicAction := m, strerror := "Panic action too long" })
  | .ok m => setupRest env { st with panicAction := m }

/-- `fr_fault_set_cb`。 -/
def frFaultSetCb (st : FaultState) (func : Option (Int → Int)) : FaultState := { st with panicCb := func }

/-! ## `fr_fault` -/

/-- `FR_FAULT_LOG` で書く行。 -/
inductive FaultLog where
  /-- `CAUGHT SIGNAL: %s` -/
  | caught (sig : Int)
  /-- `Refusing to execute panic action: %s` -/
  | refusing (err : String)
  /-- `No panic action set` -/
  | noPanicAction
  /-- `Panic action too long` -/
  | tooLong
  /-- `Calling: %s` -/
  | calling (cmd : List Char)
  /-- `Failed setting dumpable flag, pattach may not work: %s` -/
  | setDumpableFailed (err : String)
  /-- `Temporarily setting PR_DUMPABLE to 1` -/
  | tempDumpable
  /-- `Resetting PR_DUMPABLE to 0` -/
  | resetDumpable
  /-- `Failed reseting dumpable flag to off: %s` -/
  | resetFailed (err : String)
  /-- `Exiting due to insecure process state` -/
  | insecure
  /-- `Panic action exited with %i` -/
  | exited (code : Int)
  deriving DecidableEq

/-- `fr_fault` がする事。 -/
inductive FaultEvent where
  | log (l : FaultLog)
  | system (cmd : List Char)
  | exit (code : Int)
  deriving DecidableEq

/-- `memset(cmd, 0, sizeof(cmd))` の後のメモリ：`cmd` の 532 バイトは NUL で、その外はスタックのまま。 -/
def cmdInit (stack : Mem) : Mem := fun i => if i < cmdSize then '\x00' else stack i

/-- `fr_fault` の `%p` の置き換え：`(int) getpid()` の十進の表記を `cmd` の 532 バイトに書く。 -/
def expandPid (stack : Mem) (pid : Nat) (pa : List Char) : Except Mem Mem :=
  substLoop 'p' (decimal pid) ⟨cmdInit stack, 0, cmdSize, pa⟩

/-- `finish:` の後：`SIGUSR1` なら戻り、そうでなければ `fr_exit_now(1)`。 -/
def faultFinish (sig : Int) (evs : List FaultEvent) : List FaultEvent :=
  if sig = SIGUSR1 then evs else evs ++ [.exit 1]

/-- `system` の前に dumpable 属性を一時 1 にする部分。ログの行、`disable`、カーネル、`fr_strerror` を返す。 -/
def raiseDumpable (caps : Caps) (st : FaultState) : List FaultEvent × Bool × Kernel × String :=
  if (frGetDumpableFlag caps st.kernel).1 = 0 then
    match frSetDumpableFlag caps st.kernel true with
    | .error e => ([.log (.setDumpableFailed e), .log .tempDumpable], false, st.kernel, e)
    | .ok k =>
        if (frGetDumpableFlag caps k).1 = 0 then
          ([.log (.setDumpableFailed st.strerror), .log .tempDumpable], false, k, st.strerror)
        else ([.log .tempDumpable], true, k, (frGetDumpableFlag caps k).2.getD st.strerror)
  else ([], false, st.kernel, (frGetDumpableFlag caps st.kernel).2.getD st.strerror)

/-- `system(cmd)` を呼び、`disable` なら dumpable 属性を 0 に戻す。戻せなければ `fr_exit_now(1)`。 -/
def callPanicAction (env : Env) (st : FaultState) (sig : Int) (cmd : List Char) :
    List FaultEvent × FaultState :=
  let (pre, disable, k, err) := raiseDumpable env.caps st
  let code := env.system cmd
  let evs := [.log (.calling cmd)] ++ pre ++ [.system cmd]
  if disable then
    match frSetDumpableFlag env.caps k false with
    | .error e =>
        (evs ++ [.log .resetDumpable, .log (.resetFailed e), .log .insecure, .exit 1],
          { st with kernel := k, strerror := e })
    | .ok k' =>
        (faultFinish sig (evs ++ [.log .resetDumpable, .log (.exited code)]),
          { st with kernel := k', strerror := err })
  else (faultFinish sig (evs ++ [.log (.exited code)]), { st with kernel := k, strerror := err })

/-- `fr_fault(sig)`。 -/
def frFault (env : Env) (st : FaultState) (sig : Int) : List FaultEvent × FaultState :=
  let caught : FaultEvent := .log (.caught sig)
  match frFaultCheckPermissions env.stat st.panicStr with
  | .error e => (faultFinish sig [caught, .log (.refusing e)], { st with strerror := e })
  | .ok () =>
      if (st.panicCb.map fun f => decide (f sig < 0)).getD false then (faultFinish sig [caught], st)
      else if st.panicStr = [] then (faultFinish sig [caught, .log .noPanicAction], st)
      else
        match expandPid env.stack env.pid st.panicStr with
        | .error _ => ([caught, .log .tooLong, .exit 1], st)
        | .ok m =>
            let r := callPanicAction env st sig (readStr m 0 cmdSize)
            (caught :: r.1, r.2)

end FreeRadiusDebug
