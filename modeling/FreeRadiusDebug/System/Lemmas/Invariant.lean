import FreeRadiusDebug.System.Lemmas.Step

/-!
# 障害の処理の設定の不変条件

`fr_fault_setup` は六つのシグナルを順に登録し、途中で `fr_set_signal` が失敗すれば、そこで -1 を返す。既定の
ログの関数と `_fr_talloc_log` は六つとも登録できたときにだけ入り、`_fr_talloc_fault` は `SIGABRT` を登録できた
ときに入る。そのため、始まりからたどれるどの状態でも、登録とフックとログの関数の間に `SetupInv` の関係がある。
-/

namespace FreeRadiusDebug

/-- 始まりからたどれる状態で成り立つ、障害の処理の設定の関係。 -/
structure SetupInv (s : DebugState) : Prop where
  /-- どのシグナルの処理も、既定のままか、`fr_fault_setup` がそのシグナルに登録する処理。 -/
  handler_mem : ∀ sig, s.fault.handlers sig = .dfl ∨ (sig, s.fault.handlers sig) ∈ setupSignals
  /-- 0 を返した `fr_fault_setup` の後は、六つの処理がすべて登録されている。 -/
  installed : s.fault.setup = true → ∀ p ∈ setupSignals, s.fault.handlers p.1 = p.2
  /-- 0 を返した `fr_fault_setup` の後は、`_fr_talloc_log` が登録されている。 -/
  tallocLog_of_setup : s.fault.setup = true → s.hooks.tallocLog = true
  /-- `_fr_talloc_log` が登録されていれば、`fr_fault_log` は NULL でない。 -/
  logFn_of_tallocLog : s.hooks.tallocLog = true → s.hooks.logFn.isSome
  /-- `_fr_talloc_fault` が登録されているのは、`SIGABRT` が `fr_fault` に向いているときに限る。 -/
  tallocAbort_iff : s.hooks.tallocAbort = true ↔ s.fault.handlers SIGABRT = .frFault
  /-- `_fr_fault_mem_report` を登録するのは、0 を返す `fr_fault_setup` だけ。 -/
  setup_of_memReport : s.fault.handlers SIGUSR2 = .memReport → s.fault.setup = true
  panicNul : PanicNul s.fault

section Inv

variable {e : SysEnv} {s s' : DebugState}

theorem SetupInv.init (k : Kernel) : SetupInv (DebugState.init k) where
  handler_mem _ := .inl rfl
  installed h := nomatch h
  tallocLog_of_setup h := nomatch h
  logFn_of_tallocLog h := nomatch h
  tallocAbort_iff := iff_of_false (fun h => nomatch h) (fun h => nomatch h)
  setup_of_memReport h := nomatch h
  panicNul := ⟨0, by decide, rfl⟩

theorem SetupInv.keeps (h : SetupInv s) (hk : KeepsSetup s s') : SetupInv s' where
  handler_mem := by rw [hk.handlers]; exact h.handler_mem
  installed := by rw [hk.setup, hk.handlers]; exact h.installed
  tallocLog_of_setup := by rw [hk.setup, hk.tallocLog]; exact h.tallocLog_of_setup
  logFn_of_tallocLog := by rw [hk.tallocLog, hk.logFn]; exact h.logFn_of_tallocLog
  tallocAbort_iff := by rw [hk.tallocAbort, hk.handlers]; exact h.tallocAbort_iff
  setup_of_memReport := by rw [hk.handlers, hk.setup]; exact h.setup_of_memReport
  panicNul := by unfold PanicNul; rw [hk.panicAction]; exact h.panicNul

theorem SetupInv.setLogFn (h : SetupInv s) (func : Option LogFn) :
    SetupInv { s with hooks := frFaultSetLogFn s.hooks func } :=
  { h with logFn_of_tallocLog := fun _ => rfl }

/-- 登録の部分に入った `fr_fault_setup` は関係を保つ。 -/
theorem SetupInv.setupBlock {env : Env} {cmd program : Option CStr} (h : SetupInv s)
    (hr : setupBlockRuns env s.fault cmd program = true) (hp : PanicNul (frFaultSetup env s.fault cmd program).2) :
    SetupInv (frFaultSetupSys env s cmd program).2 := by
  obtain ⟨hH, hS⟩ := frFaultSetup_of_runs hr
  have hs0 := setup_of_setupBlockRuns hr
  have hmem : ∀ sig, (installHandlers env setupSignals s.fault.handlers).2 sig = .dfl ∨
      (sig, (installHandlers env setupSignals s.fault.handlers).2 sig) ∈ setupSignals := fun sig => by
    rcases @installHandlers_snd_mem env setupSignals s.fault.handlers sig with h1 | h1
    · rw [h1]; exact h.handler_mem sig
    · exact .inr h1
  simp only [frFaultSetupSys, hr, if_true]
  by_cases hfull : (installedSignals env setupSignals).length = setupSignals.length
  · have hall := installHandlers_of_length hfull s.fault.handlers
    have hhooks : setupHooks env s.hooks = { s.hooks with
        logFn := some (s.hooks.logFn.getD .stderr), tallocAbort := true, tallocLog := true } := if_pos hfull
    exact {
      handler_mem := by rw [hH]; exact hmem
      installed := fun _ => by rw [hH]; exact hall
      tallocLog_of_setup := fun _ => by rw [hhooks]
      logFn_of_tallocLog := fun _ => by rw [hhooks]; rfl
      tallocAbort_iff := by rw [hhooks, hH, hall (SIGABRT, .frFault) (by decide)]; exact iff_of_true rfl rfl
      setup_of_memReport := fun _ => hS.mpr hfull
      panicNul := hp }
  · have hhooks : setupHooks env s.hooks = { s.hooks with
        tallocAbort := s.hooks.tallocAbort || decide (SIGABRT ∈ installedSignals env setupSignals) } := if_neg hfull
    have hnot : (frFaultSetup env s.fault cmd program).2.setup = false := by
      simpa using mt hS.mp hfull
    exact {
      handler_mem := by rw [hH]; exact hmem
      installed := by rw [hnot]; exact fun h => nomatch h
      tallocLog_of_setup := by rw [hnot]; exact fun h => nomatch h
      logFn_of_tallocLog := by rw [hhooks]; exact h.logFn_of_tallocLog
      tallocAbort_iff := by
        rw [hhooks, hH]
        by_cases hA : SIGABRT ∈ installedSignals env setupSignals
        · simp [hA, installHandlers_snd_of_mem _ _ setupSignals_nodup (by decide : (SIGABRT, Handler.frFault) ∈ setupSignals) hA]
        · simp only [hA, decide_False, Bool.or_false]
          rw [installHandlers_snd_of_not_mem _ _ hA]
          exact h.tallocAbort_iff
      setup_of_memReport := by
        rw [hH]
        intro hm
        by_cases hU : SIGUSR2 ∈ installedSignals env setupSignals
        · exact absurd (installedSignals_length_of_usr2 hU) hfull
        · rw [installHandlers_snd_of_not_mem _ _ hU] at hm
          rw [h.setup_of_memReport hm] at hs0
          cases hs0
      panicNul := hp }

theorem SetupInv.faultSetup (h : SetupInv s) (env : Env) (cmd program : Option CStr) :
    SetupInv (frFaultSetupSys env s cmd program).2 := by
  have hp := @PanicNul.setup env s.fault h.panicNul cmd program
  cases hr : setupBlockRuns env s.fault cmd program
  · obtain ⟨pa, err, hf⟩ := frFaultSetup_of_not_runs hr
    rw [hf] at hp
    simp only [frFaultSetupSys, hr, hf, Bool.false_eq_true, if_false]
    exact { h with panicNul := hp }
  · exact h.setupBlock hr hp

theorem SetupInv.step {op : DebugOp} (h : SetupInv s) (hs : (debugStep e s op).2 = some s') : SetupInv s' := by
  rcases debugStep_cases hs with ⟨cmd, program, -, rfl⟩ | ⟨func, -, rfl⟩ | hk
  · exact h.faultSetup e.env cmd program
  · exact h.setLogFn func
  · exact h.keeps hk

theorem SetupInv.of_reach (h : DebugReach e s) : SetupInv s := by
  induction h with
  | init k => exact SetupInv.init k
  | step op _ hs ih => exact ih.step hs

theorem SetupInv.logFn_of_setup (h : SetupInv s) (hs : s.fault.setup = true) : s.hooks.logFn.isSome :=
  h.logFn_of_tallocLog (h.tallocLog_of_setup hs)

end Inv

/-! ## 事の列 -/

section Run

variable {e : SysEnv}

end Run

end FreeRadiusDebug
