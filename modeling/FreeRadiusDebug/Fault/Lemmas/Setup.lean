import FreeRadiusDebug.Fault.Controller

/-!
# `fr_fault_setup` の補題

`fr_fault_setup` が `panic_action` に残すものを、`%e` を置き換えた文字列 `setupExpansion` で言い表す。
どの呼び出しの後でも `panic_action` の中に NUL があること（`PanicNul`）は、テンプレートの長さによらない。
-/

namespace FreeRadiusDebug

/-- `fr_fault_setup(cmd, program)` の `%e` の置き換えの意味。`cmd` が NULL なら空、`program` が NULL なら
名前は空の文字列。 -/
def setupExpansion (cmd program : Option CStr) : List Char :=
  match cmd with
  | some c => subst 'e' ((program.map CStr.chars).getD []) c.chars
  | none => []

/-- `panic_action` の 512 バイトの中に NUL がある。`panicStr` は C が読む文字列そのものになる。 -/
def PanicNul (st : FaultState) : Prop := ∃ i < panicActionSize, st.panicAction i = '\x00'

/-- `fr_fault_setup(cmd_i, program_i)` を順に呼んだ後の状態。 -/
def runFaultSetup (env : Env) (st : FaultState) (calls : List (Option CStr × Option CStr)) : FaultState :=
  calls.foldl (fun st c => (frFaultSetup env st c.1 c.2).2) st

section Setup

variable {env : Env} {st : FaultState}

@[simp] theorem runFaultSetup_nil : runFaultSetup env st [] = st := rfl

@[simp] theorem runFaultSetup_cons (c : Option CStr × Option CStr) (calls : List (Option CStr × Option CStr)) :
    runFaultSetup env st (c :: calls) = runFaultSetup env (frFaultSetup env st c.1 c.2).2 calls := rfl

theorem nul_free_setupExpansion (cmd program : Option CStr) : '\x00' ∉ setupExpansion cmd program := by
  cases cmd with
  | none => simp [setupExpansion]
  | some c =>
      cases program with
      | none => exact nul_free_subst (by simp) c.nul_free
      | some p => exact nul_free_subst p.nul_free c.nul_free

@[simp] theorem setupRest_panicAction : (setupRest env st).2.panicAction = st.panicAction := by
  unfold setupRest; split
  · rfl
  · split
    · rfl
    · split <;> rfl

@[simp] theorem setupRest_panicCb : (setupRest env st).2.panicCb = st.panicCb := by
  unfold setupRest; split
  · rfl
  · split
    · rfl
    · split <;> rfl

theorem installHandlers_ok (h : ∀ sig, env.setSignal sig = none) :
    ∀ (l : List (Int × Handler)) (hd : Int → Handler), (installHandlers env l hd).1 = none
  | [], _ => rfl
  | (sig, _) :: l, hd => by simp only [installHandlers, h sig]; exact installHandlers_ok h l _

theorem setupRest_fst (hsig : ∀ sig, env.setSignal sig = none) :
    (setupRest env st).1 = frFaultCheckPermissions env.stat st.panicStr := by
  have hi := installHandlers_ok hsig setupSignals st.handlers
  unfold setupRest
  split
  · rename_i e he; exact he.symm
  · rename_i he
    rw [he]
    split
    · rfl
    · rcases h : installHandlers env setupSignals st.handlers with ⟨_ | e, hd⟩
      · rfl
      · simp [h] at hi

@[simp] theorem setupRest_panicStr : (setupRest env st).2.panicStr = st.panicStr := by
  simp [FaultState.panicStr]

theorem frFaultSetup_of_error {cmd program : Option CStr} {m : Mem}
    (h : writePanicAction st.panicAction cmd program = .error m) :
    frFaultSetup env st cmd program =
      (.error "Panic action too long", { st with panicAction := m, strerror := "Panic action too long" }) := by
  rw [frFaultSetup, h]

theorem frFaultSetup_of_ok {cmd program : Option CStr} {m : Mem}
    (h : writePanicAction st.panicAction cmd program = .ok m) :
    frFaultSetup env st cmd program = setupRest env { st with panicAction := m } := by
  rw [frFaultSetup, h]

@[simp] theorem frFaultSetup_panicCb {cmd program : Option CStr} :
    (frFaultSetup env st cmd program).2.panicCb = st.panicCb := by
  unfold frFaultSetup; split
  · rfl
  · exact setupRest_panicCb

theorem writePanicAction_nul (pa : Mem) (cmd program : Option CStr) {m : Mem}
    (h : writePanicAction pa cmd program = .ok m ∨ writePanicAction pa cmd program = .error m) :
    (∃ i < panicActionSize, m i = '\x00') ∨ m = pa := by
  cases cmd with
  | none =>
      obtain rfl : pa.write 0 ['\x00'] = m := by simpa [writePanicAction] using h
      exact .inl ⟨0, by decide, by simp [Mem.write]⟩
  | some c =>
      rcases substLoop_nul ⟨pa, 0, panicActionSize, c.chars⟩ (show 1 ≤ panicActionSize by decide) h with ⟨i, -, hi, h0⟩ | rfl
      · exact .inl ⟨i, by simpa using hi, h0⟩
      · exact .inr rfl

theorem PanicNul.setup (h : PanicNul st) (cmd program : Option CStr) :
    PanicNul (frFaultSetup env st cmd program).2 := by
  cases hw : writePanicAction st.panicAction cmd program with
  | error m =>
      rw [frFaultSetup_of_error hw]
      rcases writePanicAction_nul _ _ _ (.inr hw) with hm | rfl
      · exact hm
      · exact h
  | ok m =>
      rw [frFaultSetup_of_ok hw]
      show PanicNul { st with panicAction := (setupRest env { st with panicAction := m }).2.panicAction }
      rw [setupRest_panicAction]
      rcases writePanicAction_nul _ _ _ (.inl hw) with hm | rfl
      · exact hm
      · exact h

/-- どの呼び出しの列の後でも、`panic_action` の中に NUL がある。 -/
theorem PanicNul.run (h : PanicNul st) (calls : List (Option CStr × Option CStr)) :
    PanicNul (runFaultSetup env st calls) := by
  induction calls generalizing st with
  | nil => exact h
  | cons c calls ih => exact ih (h.setup c.1 c.2)

theorem frFaultSetup_of_setup (h : st.setup = true) (cmd program : Option CStr) :
    (frFaultSetup env st cmd program).2.setup = true ∧
      (frFaultSetup env st cmd program).2.handlers = st.handlers := by
  unfold frFaultSetup
  split
  · exact ⟨h, rfl⟩
  · unfold setupRest
    split
    · exact ⟨h, rfl⟩
    · rw [if_pos h]; exact ⟨h, rfl⟩

theorem setupRest_setup_of_ok : (setupRest env st).1 = .ok () → (setupRest env st).2.setup = true := by
  unfold setupRest
  split
  · exact fun h => by cases h
  · split
    · exact fun _ => ‹_›
    · split
      · exact fun h => by cases h
      · exact fun _ => rfl

theorem frFaultSetup_setup_of_ok {cmd program : Option CStr} (hok : (frFaultSetup env st cmd program).1 = .ok ()) :
    (frFaultSetup env st cmd program).2.setup = true := by
  cases hw : writePanicAction st.panicAction cmd program with
  | error m => rw [frFaultSetup_of_error hw] at hok; cases hok
  | ok m => rw [frFaultSetup_of_ok hw] at hok ⊢; exact setupRest_setup_of_ok hok

/-- 登録を済ませた後のどの呼び出しの列も、シグナルの処理を変えない。 -/
theorem runFaultSetup_handlers (h : st.setup = true) (calls : List (Option CStr × Option CStr)) :
    (runFaultSetup env st calls).handlers = st.handlers := by
  induction calls generalizing st with
  | nil => rfl
  | cons c calls ih =>
      obtain ⟨h1, h2⟩ := @frFaultSetup_of_setup env _ h c.1 c.2
      rw [runFaultSetup_cons, ih h1, h2]

theorem expandProgram_spec (pa : Mem) (prog cmd : List Char) (hlen : cmd.length ≤ INT_MAX) :
    ((subst 'e' prog cmd).length < panicActionSize ∧
      expandProgram pa prog cmd = .ok (pa.write 0 (subst 'e' prog cmd ++ ['\x00']))) ∨
    (panicActionSize ≤ (subst 'e' prog cmd).length ∧ ∃ m, expandProgram pa prog cmd = .error m ∧
      ((strstr cmd ['%', 'e'] = none ∧ m = pa) ∨
        ∃ X, X <+: subst 'e' prog cmd ∧ X.length < panicActionSize ∧ m = pa.write 0 (X ++ ['\x00']))) :=
  substLoop_spec ⟨pa, 0, panicActionSize, cmd⟩ hlen (show 1 ≤ panicActionSize by decide)
    (show panicActionSize ≤ INT_MAX by decide)

/-- `writePanicAction` の意味（`cmd` が int に収まる長さのとき）。 -/
theorem writePanicAction_spec (pa : Mem) (cmd program : Option CStr)
    (hlen : ∀ c ∈ cmd, c.chars.length ≤ INT_MAX) :
    ((setupExpansion cmd program).length < panicActionSize ∧
      writePanicAction pa cmd program = .ok (pa.write 0 (setupExpansion cmd program ++ ['\x00']))) ∨
    (panicActionSize ≤ (setupExpansion cmd program).length ∧ ∃ m, writePanicAction pa cmd program = .error m ∧
      (((∀ c ∈ cmd, strstr c.chars ['%', 'e'] = none) ∧ m = pa) ∨
        ∃ X, X <+: setupExpansion cmd program ∧ X.length < panicActionSize ∧ m = pa.write 0 (X ++ ['\x00']))) := by
  cases cmd with
  | none => exact .inl ⟨show 0 < panicActionSize by decide, rfl⟩
  | some c =>
      rcases expandProgram_spec pa ((program.map CStr.chars).getD []) c.chars (hlen c rfl) with h | ⟨h1, m, h2, h3⟩
      · exact .inl h
      · refine .inr ⟨h1, m, h2, ?_⟩
        rcases h3 with ⟨h4, h5⟩ | h4
        · exact .inl ⟨fun c' hc' => by cases hc'; exact h4, h5⟩
        · exact .inr h4

/-- `E` が収まれば、`fr_fault_setup` は `E` を `panic_action` に書いてから、検査と登録に進む。 -/
theorem frFaultSetup_fit {cmd program : Option CStr} (hlen : ∀ c ∈ cmd, c.chars.length ≤ INT_MAX)
    (hfit : (setupExpansion cmd program).length < panicActionSize) :
    frFaultSetup env st cmd program =
      setupRest env { st with panicAction := st.panicAction.write 0 (setupExpansion cmd program ++ ['\x00']) } ∧
    (frFaultSetup env st cmd program).2.panicStr = setupExpansion cmd program := by
  rcases writePanicAction_spec st.panicAction cmd program hlen with ⟨-, h⟩ | ⟨h, -⟩
  · rw [frFaultSetup_of_ok h]
    exact ⟨rfl, by simpa [FaultState.panicStr] using
      readStr_write (nul_free_setupExpansion cmd program) (m := st.panicAction) (o := 0) hfit⟩
  · omega

theorem frFaultSetup_fit_fst {cmd program : Option CStr} (hlen : ∀ c ∈ cmd, c.chars.length ≤ INT_MAX)
    (hfit : (setupExpansion cmd program).length < panicActionSize) (hsig : ∀ sig, env.setSignal sig = none) :
    (frFaultSetup env st cmd program).1 = frFaultCheckPermissions env.stat (setupExpansion cmd program) := by
  obtain ⟨h1, h2⟩ := @frFaultSetup_fit env st _ _ hlen hfit
  rw [h1, setupRest_panicStr] at h2
  rw [h1, setupRest_fst hsig, h2]

/-- `E` が収まらなければ、`fr_fault_setup` は "Panic action too long" で失敗し、`panic_action` には `E` の先頭の
一部が残るか、`cmd` に `%e` がなければ元のまま残る。 -/
theorem frFaultSetup_long {cmd program : Option CStr} (hlen : ∀ c ∈ cmd, c.chars.length ≤ INT_MAX)
    (hlong : panicActionSize ≤ (setupExpansion cmd program).length) :
    (frFaultSetup env st cmd program).1 = .error "Panic action too long" ∧
    ((frFaultSetup env st cmd program).2.panicStr <+: setupExpansion cmd program ∨
      ((∀ c ∈ cmd, strstr c.chars ['%', 'e'] = none) ∧
        (frFaultSetup env st cmd program).2.panicAction = st.panicAction)) := by
  rcases writePanicAction_spec st.panicAction cmd program hlen with ⟨h, -⟩ | ⟨-, m, h, hm⟩
  · omega
  · rw [frFaultSetup_of_error h]
    refine ⟨rfl, ?_⟩
    rcases hm with ⟨hs, rfl⟩ | ⟨X, hX, hXl, rfl⟩
    · exact .inr ⟨hs, rfl⟩
    · refine .inl ?_
      have hXn : '\x00' ∉ X := fun h => nul_free_setupExpansion cmd program (hX.subset h)
      simpa [FaultState.panicStr, readStr_write hXn hXl] using hX

end Setup

end FreeRadiusDebug
