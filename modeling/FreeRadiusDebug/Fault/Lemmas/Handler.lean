import FreeRadiusDebug.Fault.Lemmas.Setup

/-!
# `fr_fault` の補題

`fr_fault` が `system` を呼ぶのは、権限の検査が通り、コールバックが止めず、`panic_action` が空でなく、`%p` の
置き換えが `cmd` に収まったときに限る。そのとき渡す文字列は `cmd` に書いた文字列である（`frFault_system`）。
-/

namespace FreeRadiusDebug

/-- コールバックが登録されていないか、`sig` で負を返さない。 -/
def CbContinues (st : FaultState) (sig : Int) : Prop := ∀ f, st.panicCb = some f → 0 ≤ f sig

section Handler

variable {env : Env} {st : FaultState} {sig : Int}

theorem cbGuard_eq_false (h : CbContinues st sig) :
    (st.panicCb.map fun f => decide (f sig < 0)).getD false = false := by
  cases hcb : st.panicCb with
  | none => rfl
  | some f => have := h f hcb; simp [hcb]; omega

theorem cbGuard_eq_true (h : ¬CbContinues st sig) :
    (st.panicCb.map fun f => decide (f sig < 0)).getD false = true := by
  simp only [CbContinues, not_forall, not_le] at h
  obtain ⟨f, hf, hlt⟩ := h
  simp [hf]; omega

@[simp] theorem system_mem_faultFinish {c : List Char} {evs : List FaultEvent} :
    FaultEvent.system c ∈ faultFinish sig evs ↔ FaultEvent.system c ∈ evs := by
  unfold faultFinish; split <;> simp

theorem raiseDumpable_logs (caps : Caps) : ∀ e ∈ (raiseDumpable caps st).1, ∃ l, e = .log l := by
  unfold raiseDumpable
  split
  · split
    · simp
    · split <;> simp
  · simp

theorem system_mem_callPanicAction {cmd c : List Char} :
    FaultEvent.system c ∈ (callPanicAction env st sig cmd).1 ↔ c = cmd := by
  have hpre : FaultEvent.system c ∉ (raiseDumpable env.caps st).1 := fun h => by
    obtain ⟨l, hl⟩ := raiseDumpable_logs env.caps _ h; cases hl
  rcases h : raiseDumpable env.caps st with ⟨pre, disable, k, err⟩
  rw [h] at hpre
  simp only [callPanicAction, h]
  split
  · split <;> simp [hpre, eq_comm]
  · simp [hpre, eq_comm]

/-! ## `fr_exit_now` -/

/-- `fr_fault` の道：`finish:` に行くか、"Panic action too long" で終わるか、`system` を呼ぶ。`finish:` の前に
`fr_exit_now` は呼ばない。 -/
theorem frFault_cases :
    (∃ rest e, (∀ code, FaultEvent.exit code ∉ rest) ∧
      frFault env st sig = (faultFinish sig (.log (.caught sig) :: rest), { st with strerror := e })) ∨
    frFault env st sig = ([.log (.caught sig), .log .tooLong, .exit 1], st) ∨
    ∃ cmd, frFault env st sig =
      (.log (.caught sig) :: (callPanicAction env st sig cmd).1, (callPanicAction env st sig cmd).2) := by
  unfold frFault
  split
  · exact .inl ⟨_, _, by simp, rfl⟩
  · split
    · exact .inl ⟨[], st.strerror, by simp, rfl⟩
    · split
      · exact .inl ⟨_, st.strerror, by simp, rfl⟩
      · split
        · exact .inr (.inl rfl)
        · exact .inr (.inr ⟨_, rfl⟩)

theorem faultFinish_exit {evs : List FaultEvent} (hev : ∀ code, FaultEvent.exit code ∉ evs) :
    (sig ≠ SIGUSR1 → (faultFinish sig evs).getLast? = some (.exit 1)) ∧
      ∀ code, FaultEvent.exit code ∈ faultFinish sig evs →
        code = 1 ∧ (faultFinish sig evs).getLast? = some (.exit 1) ∧ sig ≠ SIGUSR1 := by
  unfold faultFinish
  split
  · rename_i hs; exact ⟨fun h => absurd hs h, fun code h => absurd h (hev code)⟩
  · rename_i hs
    refine ⟨fun _ => by simp, fun code h => ⟨?_, by simp, hs⟩⟩
    simpa [hev code] using h

theorem callPanicAction_exit (cmd : List Char) :
    (sig ≠ SIGUSR1 → (callPanicAction env st sig cmd).1.getLast? = some (.exit 1)) ∧
      ∀ code, FaultEvent.exit code ∈ (callPanicAction env st sig cmd).1 →
        code = 1 ∧ (callPanicAction env st sig cmd).1.getLast? = some (.exit 1) ∧
        (sig ≠ SIGUSR1 ∨ FaultEvent.log .insecure ∈ (callPanicAction env st sig cmd).1) := by
  have hpre : ∀ code, FaultEvent.exit code ∉ (raiseDumpable env.caps st).1 := fun _ h => by
    obtain ⟨l, hl⟩ := raiseDumpable_logs env.caps _ h; cases hl
  rcases h : raiseDumpable env.caps st with ⟨pre, disable, k, err⟩
  rw [h] at hpre
  dsimp only at hpre
  simp only [callPanicAction, h]
  split
  · split
    · refine ⟨fun _ => ?_, fun code hc => ⟨by simpa [hpre] using hc, ?_, .inr (by simp)⟩⟩ <;>
        simp [List.getLast?_cons, List.getLast?_append]
    · refine ⟨(faultFinish_exit ?_).1, fun code hc => ((faultFinish_exit ?_).2 code hc).imp_right
        (And.imp_right .inl)⟩ <;> simp [hpre]
  · refine ⟨(faultFinish_exit ?_).1, fun code hc => ((faultFinish_exit ?_).2 code hc).imp_right
      (And.imp_right .inl)⟩ <;> simp [hpre]

/-- `fr_fault` が `system(c)` を呼ぶ条件。 -/
theorem frFault_system {c : List Char} :
    FaultEvent.system c ∈ (frFault env st sig).1 ↔
      frFaultCheckPermissions env.stat st.panicStr = .ok () ∧ CbContinues st sig ∧ st.panicStr ≠ [] ∧
        ∃ m, expandPid env.stack env.pid st.panicStr = .ok m ∧ c = readStr m 0 cmdSize := by
  unfold frFault
  split
  · rename_i e he; simp [faultFinish, he]; split <;> simp
  · rename_i hperm
    by_cases hcb : CbContinues st sig
    · rw [if_neg (by simp [cbGuard_eq_false hcb])]
      by_cases hne : st.panicStr = []
      · simp [hne, faultFinish]; split <;> simp
      · rw [if_neg hne]
        split
        · rename_i m hm; simp [hperm, hcb, hne, hm]
        · rename_i m hm; simp [hperm, hcb, hne, hm, system_mem_callPanicAction]
    · rw [if_pos (cbGuard_eq_true hcb)]
      simp [hcb, faultFinish]; split <;> simp

theorem frFault_tooLong {m : Mem} (hperm : frFaultCheckPermissions env.stat st.panicStr = .ok ())
    (hcb : CbContinues st sig) (hne : st.panicStr ≠ []) (he : expandPid env.stack env.pid st.panicStr = .error m) :
    (frFault env st sig).1 = [.log (.caught sig), .log .tooLong, .exit 1] := by
  simp [frFault, hperm, cbGuard_eq_false hcb, hne, he]

/-- `expandPid` の意味（`panic_action` の文字列が int に収まる長さのとき）。 -/
theorem expandPid_spec (stack : Mem) (pid : Nat) {P : List Char} (hP : P.length ≤ INT_MAX) :
    ((subst 'p' (decimal pid) P).length < cmdSize ∧
      expandPid stack pid P = .ok ((cmdInit stack).write 0 (subst 'p' (decimal pid) P ++ ['\x00']))) ∨
    (cmdSize ≤ (subst 'p' (decimal pid) P).length ∧ ∃ m, expandPid stack pid P = .error m ∧
      ((strstr P ['%', 'p'] = none ∧ m = cmdInit stack) ∨
        ∃ X, X <+: subst 'p' (decimal pid) P ∧ X.length < cmdSize ∧ m = (cmdInit stack).write 0 (X ++ ['\x00']))) :=
  substLoop_spec ⟨cmdInit stack, 0, cmdSize, P⟩ hP (show 1 ≤ cmdSize by decide) (show cmdSize ≤ INT_MAX by decide)

theorem frFault_system_eq {c : List Char} (hP : st.panicStr.length ≤ INT_MAX)
    (h : FaultEvent.system c ∈ (frFault env st sig).1) : c = subst 'p' (decimal env.pid) st.panicStr := by
  obtain ⟨-, -, -, m, hm, rfl⟩ := frFault_system.mp h
  rcases expandPid_spec env.stack env.pid hP with ⟨hfit, hok⟩ | ⟨-, m', herr, -⟩
  · obtain rfl := Except.ok.inj (hm.symm.trans hok)
    exact readStr_write (nul_free_subst (nul_not_mem_decimal _) (nul_not_mem_readStr _ _ _)) hfit
  · exact absurd (hm.symm.trans herr) (by simp)

/-- 収まる置き換えなら、`fr_fault` はそれを `cmd` として `callPanicAction` に渡す。 -/
theorem frFault_eq_callPanicAction (hperm : frFaultCheckPermissions env.stat st.panicStr = .ok ())
    (hcb : CbContinues st sig) (hne : st.panicStr ≠ []) (hP : st.panicStr.length ≤ INT_MAX)
    (hfit : (subst 'p' (decimal env.pid) st.panicStr).length < cmdSize) :
    let r := callPanicAction env st sig (subst 'p' (decimal env.pid) st.panicStr)
    frFault env st sig = (.log (.caught sig) :: r.1, r.2) := by
  rcases expandPid_spec env.stack env.pid hP with ⟨-, hok⟩ | ⟨h, -⟩
  · have hX : '\x00' ∉ subst 'p' (decimal env.pid) st.panicStr :=
      nul_free_subst (nul_not_mem_decimal env.pid) (nul_not_mem_readStr st.panicAction 0 panicActionSize)
    simp only [frFault, hperm, cbGuard_eq_false hcb, hne, hok, readStr_write hX hfit, Bool.false_eq_true,
      if_false]
  · exact absurd hfit (Nat.not_lt.mpr h)

theorem system_mem_frFault_of_fit (hperm : frFaultCheckPermissions env.stat st.panicStr = .ok ())
    (hcb : CbContinues st sig) (hne : st.panicStr ≠ []) (hP : st.panicStr.length ≤ INT_MAX)
    (hfit : (subst 'p' (decimal env.pid) st.panicStr).length < cmdSize) :
    FaultEvent.system (subst 'p' (decimal env.pid) st.panicStr) ∈ (frFault env st sig).1 := by
  rw [frFault_eq_callPanicAction hperm hcb hne hP hfit]
  exact List.mem_cons_of_mem _ (system_mem_callPanicAction.mpr rfl)

/-! ## dumpable 属性 -/

theorem dumpable_ne_one_of_get_eq_zero {caps : Caps} {k : Kernel} (h : (frGetDumpableFlag caps k).1 = 0) :
    k.dumpable ≠ 1 := by
  simp only [frGetDumpableFlag, prctlGetDumpable] at h
  split_ifs at h <;> omega

theorem dumpable_of_set_false {caps : Caps} {k k' : Kernel} (h : frSetDumpableFlag caps k false = .ok k') :
    k'.dumpable = 0 := by
  unfold frSetDumpableFlag prctlSetDumpable at h
  by_cases hp : caps.prctlOk (.setDumpable 0) <;> simp [hp] at h
  rw [← h]

theorem raiseDumpable_kernel (caps : Caps) :
    (raiseDumpable caps st).2.1 = false → (raiseDumpable caps st).2.2.1.dumpable = 1 →
      st.kernel.dumpable = 1 := by
  unfold raiseDumpable
  split
  · split
    · exact fun _ h => h
    · split
      · rename_i hk; exact fun _ h => absurd h (dumpable_ne_one_of_get_eq_zero hk)
      · exact fun h => by cases h
  · exact fun _ h => h

theorem callPanicAction_dumpable {cmd : List Char} (h : (callPanicAction env st sig cmd).2.kernel.dumpable = 1) :
    st.kernel.dumpable = 1 ∨ (FaultEvent.log .insecure ∈ (callPanicAction env st sig cmd).1 ∧
      (callPanicAction env st sig cmd).1.getLast? = some (.exit 1)) := by
  have hk := @raiseDumpable_kernel st env.caps
  rcases hr : raiseDumpable env.caps st with ⟨pre, disable, k, err⟩
  rw [hr] at hk
  simp only [callPanicAction, hr] at h ⊢
  cases disable with
  | false => exact .inl (hk rfl h)
  | true =>
      simp only [if_true] at h ⊢
      split at h
      · exact .inr ⟨by simp, by simp [List.getLast?_cons, List.getLast?_append]⟩
      · rename_i k' hk'
        rw [dumpable_of_set_false hk'] at h
        cases h

/-- 収まる `cmd` で `fr_fault_setup` の検査と登録が通れば、それは 0 を返し、次の `fr_fault` は `%e` を置き換えた
文字列の `%p` を置き換えて `system` に渡す。 -/
theorem system_mem_frFault_after_setup {cmd program : Option CStr} (hlen : ∀ c ∈ cmd, c.chars.length ≤ INT_MAX)
    (hfit : (setupExpansion cmd program).length < panicActionSize)
    (hperm : frFaultCheckPermissions env.stat (setupExpansion cmd program) = .ok ())
    (hsig : ∀ sig, env.setSignal sig = none) (hcb : CbContinues st sig) (hne : setupExpansion cmd program ≠ [])
    (hfit' : (subst 'p' (decimal env.pid) (setupExpansion cmd program)).length < cmdSize) :
    (frFaultSetup env st cmd program).1 = .ok () ∧
      FaultEvent.system (subst 'p' (decimal env.pid) (setupExpansion cmd program)) ∈
        (frFault env (frFaultSetup env st cmd program).2 sig).1 := by
  have h2 := (@frFaultSetup_fit env st _ _ hlen hfit).2
  refine ⟨(frFaultSetup_fit_fst hlen hfit hsig).trans hperm, h2 ▸ system_mem_frFault_of_fit (h2 ▸ hperm)
    (fun f hf => hcb f (by rwa [frFaultSetup_panicCb] at hf)) (h2 ▸ hne) (h2 ▸ le_trans hfit.le (by decide))
    (h2 ▸ hfit')⟩

end Handler

end FreeRadiusDebug
