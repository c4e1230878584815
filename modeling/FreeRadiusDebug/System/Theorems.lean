import FreeRadiusDebug.System.Lemmas.Invariant

/-!
# プロセス全体の定理

始まりからたどれるどの状態でも、シグナルの処理と talloc のフックとログの関数の間に決まった関係がある。
`fr_fault_setup` が 0 を返した後は、どの事の列も NULL の `fr_fault_log` を呼ばず、致命的なシグナルと talloc の
abort は `fr_fault` を通って `fr_exit_now(1)` で終わる。一方、登録の途中で `fr_set_signal` が失敗すると、
`SIGSEGV` は `fr_fault` に向いたまま `fr_fault_log` は NULL で残る。それでも、`fr_set_signal` が成功する次の
`fr_fault_setup` は登録をはじめからやり直して済ませる。dumpable 属性は、どの列の後でも、
`fr_set_dumpable(true)` を呼んだときにだけ 1 になり、`fr_set_dumpable(false)` では 0 に戻らない。

証明に使う補題は `Lemmas/` に置く。
-/

namespace FreeRadiusDebug

/-- 呼び出しがすべて成功する外の世界。 -/
def quietEnv : SysEnv :=
  ⟨⟨fun _ => none, fun _ => none, 1, fun _ => 0, ⟨false, fun _ => true, true, ""⟩, fun _ => '\x00'⟩,
    ⟨fun fd => .ok fd, fun _ => none, ⟨fun _ => none, fun _ => 0, fun _ => 0, fun _ _ h => nomatch h⟩, 0⟩⟩

/-- プロセスの始まりで `fr_fault_setup(NULL, NULL)` を呼んだ後の状態。 -/
def setupState : DebugState := (frFaultSetupSys quietEnv.env (DebugState.init ⟨0, ⟨0, 0⟩⟩) none none).2

theorem setupState_reach : DebugReach quietEnv setupState := .step (.faultSetup none none) (.init _) rfl

/-! ## たどれる状態の関係 -/

/-- 始まりからたどれるどの状態でも：登録を済ませているのは `SIGUSR2` に `_fr_fault_mem_report` があるときに
限り、そのときは六つの処理がすべてあり `fr_fault_log` は NULL でない。`_fr_talloc_log` があれば
`fr_fault_log` は NULL でなく、`_fr_talloc_fault` があるのは `SIGABRT` が `fr_fault` に向いているときに限る。
どのシグナルの処理も、既定のままか `fr_fault_setup` がそのシグナルに登録する処理で、`panic_action` の 512
バイトの中には NUL がある。 -/
theorem reachable_setup_config {e : SysEnv} {s : DebugState} (hr : DebugReach e s) :
    (s.fault.setup = true ↔ s.fault.handlers SIGUSR2 = .memReport) ∧
    (s.fault.setup = true → s.hooks.logFn.isSome ∧ ∀ p ∈ setupSignals, s.fault.handlers p.1 = p.2) ∧
    (s.hooks.tallocLog = true → s.hooks.logFn.isSome) ∧
    (s.hooks.tallocAbort = true ↔ s.fault.handlers SIGABRT = .frFault) ∧
    (∀ sig, s.fault.handlers sig = .dfl ∨ (sig, s.fault.handlers sig) ∈ setupSignals) ∧
    ∃ i < panicActionSize, s.fault.panicAction i = '\x00' := by
  have h := SetupInv.of_reach hr
  exact ⟨⟨fun hs => h.installed hs (SIGUSR2, .memReport) (by decide), h.setup_of_memReport⟩,
    fun hs => ⟨h.logFn_of_setup hs, h.installed hs⟩, h.logFn_of_tallocLog, h.tallocAbort_iff, h.handler_mem,
    h.panicNul⟩

theorem reachable_setup_config_setupState :
    DebugReach quietEnv setupState ∧
    (setupState.fault.setup = true ↔ setupState.fault.handlers SIGUSR2 = .memReport) ∧
    (setupState.fault.setup = true →
      setupState.hooks.logFn.isSome ∧ ∀ p ∈ setupSignals, setupState.fault.handlers p.1 = p.2) ∧
    (setupState.hooks.tallocLog = true → setupState.hooks.logFn.isSome) ∧
    (setupState.hooks.tallocAbort = true ↔ setupState.fault.handlers SIGABRT = .frFault) ∧
    (∀ sig, setupState.fault.handlers sig = .dfl ∨ (sig, setupState.fault.handlers sig) ∈ setupSignals) ∧
    ∃ i < panicActionSize, setupState.fault.panicAction i = '\x00' :=
  ⟨setupState_reach, reachable_setup_config setupState_reach⟩

/-! ## 登録を済ませた後 -/

/-- `fr_fault_setup` が 0 を返した後は、`SIGSEGV`、`SIGBUS`、`SIGABRT`、`SIGFPE` は `fr_fault` に届き、それは
`CAUGHT SIGNAL` を書いて `fr_exit_now(1)` でプロセスを終える。talloc の abort も `talloc abort` を書いてから
`fr_fault(SIGABRT)` に入り、同じように終わる。`SIGUSR2` は `CAUGHT SIGNAL` を書き、`fr_fault_log_fd` を `dup` して
開けた `FILE` に見出しと木全体の `talloc_report_full` を書いて閉じ、`dup` か `fdopen` が失敗すれば
`fr_perror("memreport")` を書く。どちらでもプロセスは続く。 -/
theorem signals_after_setup {e : SysEnv} {s : DebugState} (hr : DebugReach e s) (hs : s.fault.setup = true) :
    (∀ sig : FaultSignal, sig.val ≠ SIGUSR1 → sig.val ≠ SIGUSR2 →
      (debugStep e s (.signal sig)).1.head? = some (.fault (.log (.caught sig.val))) ∧
      SysEvent.fault (.exit 1) ∈ (debugStep e s (.signal sig)).1 ∧ (debugStep e s (.signal sig)).2 = none) ∧
    ((debugStep e s .tallocAbort).1.take 2 = [.tallocAbortLog, .fault (.log (.caught SIGABRT))] ∧
      SysEvent.fault (.exit 1) ∈ (debugStep e s .tallocAbort).1 ∧ (debugStep e s .tallocAbort).2 = none) ∧
    ((debugStep e s (.signal ⟨SIGUSR2, by decide⟩)).1 = .memCaught SIGUSR2 ::
        (match e.report.dup s.hooks.logFd with
          | .error _ => [.perror "memreport"]
          | .ok fd =>
              match e.report.fdopen fd with
              | some _ => [.report (.dup fd), .report (.close fd), .perror "memreport"]
              | none => [.report (.dup fd), .report .header, .report (.full none), .report (.fclose fd)]) ∧
      (debugStep e s (.signal ⟨SIGUSR2, by decide⟩)).2.isSome) := by
  have hi := SetupInv.of_reach hr
  have hl := hi.logFn_of_setup hs
  have hfr : ∀ p ∈ setupSignals, p.1 ≠ SIGUSR2 → p.2 = .frFault := by decide
  refine ⟨fun ⟨sig, hsig⟩ h1 h2 => ?_, ?_, ?_⟩
  · obtain ⟨p, hp, rfl⟩ := List.mem_map.mp hsig
    have hh : s.fault.handlers p.1 = .frFault := (hi.installed hs p hp).trans (hfr p hp h2)
    simp only [debugStep, deliver, hh]
    exact runFault_fatal hl h1
  · have ha : s.hooks.tallocAbort = true :=
      hi.tallocAbort_iff.mpr (hi.installed hs (SIGABRT, .frFault) (by decide))
    obtain ⟨f, hf⟩ := Option.isSome_iff_exists.mp hl
    obtain ⟨h1, h2, h3⟩ := @runFault_fatal s SIGABRT e.env hl (by decide)
    simp only [debugStep, tallocAbort, ha, if_true, hf]
    obtain ⟨rest, hrest⟩ := List.head?_eq_some_iff.mp h1
    exact ⟨by rw [hrest]; rfl, List.mem_cons_of_mem _ h2, h3⟩
  · have hh : s.fault.handlers SIGUSR2 = .memReport := hi.installed hs (SIGUSR2, .memReport) (by decide)
    simp only [debugStep, deliver, hh]
    exact memReport_eq hl

theorem signals_after_setup_setupState :
    DebugReach quietEnv setupState ∧ setupState.fault.setup = true ∧
      ((debugStep quietEnv setupState (.signal ⟨SIGSEGV, by decide⟩)).1.head? =
          some (.fault (.log (.caught SIGSEGV))) ∧
        SysEvent.fault (.exit 1) ∈ (debugStep quietEnv setupState (.signal ⟨SIGSEGV, by decide⟩)).1 ∧
        (debugStep quietEnv setupState (.signal ⟨SIGSEGV, by decide⟩)).2 = none) :=
  ⟨setupState_reach, rfl, (signals_after_setup setupState_reach rfl).1 ⟨SIGSEGV, by decide⟩ (by decide) (by decide)⟩

/-! ## 登録の途中の失敗 -/

theorem retCode_of_ne_ok {r : Except String Unit} (h : r ≠ .ok ()) : retCode r = -1 := by
  rcases r with _ | ⟨⟩
  · rfl
  · exact absurd rfl h

/-- `fr_fault_log` が NULL のまま登録の部分に入り、`SIGSEGV` を登録できて後のどれかで `fr_set_signal` が失敗
すると、`fr_fault_setup` は -1 を返すが、`SIGSEGV` は `fr_fault` に向いたままで、`fr_fault_log` は NULL のまま
である。その後に `SIGSEGV` が届くと、`fr_fault` は最初の `FR_FAULT_LOG` で NULL を呼ぶ。 -/
theorem partial_setup_nullLog {e : SysEnv} {s : DebugState} {cmd program : Option CStr}
    (hlog : s.hooks.logFn = none) (hr : setupBlockRuns e.env s.fault cmd program = true)
    (hsegv : e.env.setSignal SIGSEGV = none) (hfail : ∃ p ∈ setupSignals, e.env.setSignal p.1 ≠ none) :
    ∃ s', debugStep e s (.faultSetup cmd program) = ([.ret (-1)], some s') ∧
      s'.fault.handlers SIGSEGV = .frFault ∧ s'.hooks.logFn = none ∧
      debugStep e s' (.signal ⟨SIGSEGV, by decide⟩) = ([.nullLog], none) := by
  have hI : SIGSEGV ∈ installedSignals e.env setupSignals := by
    simp only [setupSignals, installedSignals, hsegv]
    exact List.mem_cons_self _ _
  have hfull : (installedSignals e.env setupSignals).length ≠ setupSignals.length := fun hf => by
    obtain ⟨p, hp, hne⟩ := hfail
    exact hne (setSignal_of_mem_installedSignals
      ((installedSignals_eq_of_length hf).symm ▸ List.mem_map_of_mem Prod.fst hp))
  obtain ⟨hH, hS⟩ := frFaultSetup_of_runs hr
  have hseg : (frFaultSetup e.env s.fault cmd program).2.handlers SIGSEGV = .frFault := by
    rw [hH]; exact installHandlers_snd_of_mem _ _ setupSignals_nodup (by decide) hI
  have hret : (frFaultSetup e.env s.fault cmd program).1 ≠ .ok () := fun hok =>
    hfull (hS.mp (frFaultSetup_setup_of_ok hok))
  have hhooks : (setupHooks e.env s.hooks).logFn = none := by rw [setupHooks, if_neg hfull]; exact hlog
  refine ⟨(frFaultSetupSys e.env s cmd program).2, ?_, hseg, ?_, ?_⟩
  · simp only [debugStep, frFaultSetupSys, retCode_of_ne_ok hret]
  · simp only [frFaultSetupSys, hr, if_true]; exact hhooks
  · simp only [debugStep, deliver, frFaultSetupSys, hseg, hr, if_true, runFault, hhooks]

/-- `fr_set_signal(SIGBUS)` だけが失敗する外の世界。 -/
def busFailEnv : SysEnv :=
  { quietEnv with env := { quietEnv.env with setSignal := fun sig => if sig = SIGBUS then some "Invalid argument" else none } }

theorem partial_setup_nullLog_init :
    (DebugState.init ⟨0, ⟨0, 0⟩⟩).hooks.logFn = none ∧
    setupBlockRuns busFailEnv.env (DebugState.init ⟨0, ⟨0, 0⟩⟩).fault none none = true ∧
    busFailEnv.env.setSignal SIGSEGV = none ∧ (∃ p ∈ setupSignals, busFailEnv.env.setSignal p.1 ≠ none) ∧
    ∃ s', debugStep busFailEnv (DebugState.init ⟨0, ⟨0, 0⟩⟩) (.faultSetup none none) = ([.ret (-1)], some s') ∧
      s'.fault.handlers SIGSEGV = .frFault ∧ s'.hooks.logFn = none ∧
      debugStep busFailEnv s' (.signal ⟨SIGSEGV, by decide⟩) = ([.nullLog], none) :=
  have hfail : ∃ p ∈ setupSignals, busFailEnv.env.setSignal p.1 ≠ none := ⟨(SIGBUS, .frFault), by decide, by decide⟩
  ⟨rfl, rfl, rfl, hfail, partial_setup_nullLog rfl rfl rfl hfail⟩

/-- 登録の途中で失敗した後でも、どのたどれる状態からでも、`fr_set_signal` が成功し、`panic_action` を書けて
検査が通る `fr_fault_setup` は 0 を返し、登録を済ませる：六つの処理、NULL でない `fr_fault_log`、talloc の二つの
フックがそろう。`setup` は登録をすべて終えたときにだけ立つので、やり直しは登録の部分をはじめから走らせる。状態を
たどった外の世界 `e₀` と、この呼び出しの外の世界 `e` は違ってよい。 -/
theorem faultSetup_completes {e₀ e : SysEnv} {s : DebugState} {cmd program : Option CStr} {m : Mem}
    (hr : DebugReach e₀ s) (hsig : ∀ sig, e.env.setSignal sig = none)
    (hw : writePanicAction s.fault.panicAction cmd program = .ok m)
    (hc : frFaultCheckPermissions e.env.stat (readStr m 0 panicActionSize) = .ok ()) :
    ∃ s', debugStep e s (.faultSetup cmd program) = ([.ret 0], some s') ∧ s'.fault.setup = true ∧
      s'.hooks.logFn.isSome ∧ s'.hooks.tallocAbort = true ∧ s'.hooks.tallocLog = true ∧
      ∀ p ∈ setupSignals, s'.fault.handlers p.1 = p.2 := by
  have hok : (frFaultSetup e.env s.fault cmd program).1 = .ok () := by
    rw [frFaultSetup_of_ok hw, setupRest_fst hsig]; exact hc
  have hs := frFaultSetup_setup_of_ok hok
  have hi := (SetupInv.of_reach hr).faultSetup e.env cmd program
  refine ⟨(frFaultSetupSys e.env s cmd program).2, ?_, hs, hi.logFn_of_setup hs,
    hi.tallocAbort_iff.mpr (hi.installed hs (SIGABRT, .frFault) (by decide)), hi.tallocLog_of_setup hs, hi.installed hs⟩
  simp only [debugStep, frFaultSetupSys, hok, retCode]

/-- プロセスの始まりで、`SIGBUS` の登録に失敗した `fr_fault_setup(NULL, NULL)` の後の状態。 -/
def partialState : DebugState := (frFaultSetupSys busFailEnv.env (DebugState.init ⟨0, ⟨0, 0⟩⟩) none none).2

theorem faultSetup_completes_after_partial :
    DebugReach busFailEnv partialState ∧ (∀ sig, quietEnv.env.setSignal sig = none) ∧
    writePanicAction partialState.fault.panicAction none none = .ok (partialState.fault.panicAction.write 0 ['\x00']) ∧
    frFaultCheckPermissions quietEnv.env.stat (readStr (partialState.fault.panicAction.write 0 ['\x00']) 0 panicActionSize) =
      .ok () ∧
    ∃ s', debugStep quietEnv partialState (.faultSetup none none) = ([.ret 0], some s') ∧ s'.fault.setup = true ∧
      s'.hooks.logFn.isSome ∧ s'.hooks.tallocAbort = true ∧ s'.hooks.tallocLog = true ∧
      ∀ p ∈ setupSignals, s'.fault.handlers p.1 = p.2 :=
  have hr : DebugReach busFailEnv partialState := .step (.faultSetup none none) (.init _) rfl
  ⟨hr, fun _ => rfl, rfl, rfl, faultSetup_completes hr (fun _ => rfl) rfl rfl⟩

/-! ## dumpable 属性 -/

/-- どの事の列の後でも、プロセスが続いていれば、dumpable 属性が 1 なのは、初めから 1 だったか、
`prctl(PR_SET_DUMPABLE, 1)` が成功するカーネルで列の中で `fr_set_dumpable(true)` を呼んだときに限る。
`fr_set_dumpable(false)` は属性を 0 に戻さず、`fr_fault` は上げた属性を戻すか、戻せなければプロセスを終える。 -/
theorem debugRun_dumpable {e : SysEnv} {s s' : DebugState} {ops : List DebugOp} (h : (debugRun e s ops).2 = some s') :
    s'.fault.kernel.dumpable = 1 ↔
      s.fault.kernel.dumpable = 1 ∨ (e.env.caps.prctlOk (.setDumpable 1) = true ∧ DebugOp.setDumpable true ∈ ops) := by
  induction ops generalizing s with
  | nil => cases h; simp
  | cons op ops ih =>
      unfold debugRun at h
      dsimp only at h
      split at h
      · cases h
      · rename_i s1 h1
        rw [ih h, debugStep_dumpable h1, List.mem_cons, or_assoc, ← and_or_left, @eq_comm _ op]

theorem debugRun_dumpable_after_disallow :
    ∃ s', (debugRun quietEnv (DebugState.init ⟨0, ⟨0, 0⟩⟩) [.setDumpable true, .setDumpable false]).2 = some s' ∧
      s'.fault.kernel.dumpable = 1 ∧
      (s'.fault.kernel.dumpable = 1 ↔ (DebugState.init ⟨0, ⟨0, 0⟩⟩).fault.kernel.dumpable = 1 ∨
        (quietEnv.env.caps.prctlOk (.setDumpable 1) = true ∧
          DebugOp.setDumpable true ∈ [DebugOp.setDumpable true, .setDumpable false])) :=
  ⟨_, rfl, rfl, debugRun_dumpable rfl⟩

end FreeRadiusDebug
