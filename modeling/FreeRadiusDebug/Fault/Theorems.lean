import FreeRadiusDebug.Fault.Lemmas.Handler

/-!
# 障害の処理の定理

`fr_fault_setup` が `panic_action` に残すもの、`fr_fault` の `%p` の置き換え、二つの置き換えを続けた結果、
`fr_fault_check_permissions` が調べる名前について言明する。`cmd` の長さを int に収まるものに限る定理は、
`(int) (q - p)` の折り返し（`substLoop` の精度）が起きない範囲を述べている。
-/

namespace FreeRadiusDebug

/-! ## `fr_fault_setup` の後の `panic_action` -/

/-- 一回の `fr_fault_setup` の後の `panic_action` は三つの場合に分かれる。`%e` を置き換えた文字列 `E` が 512
バイトに収まれば、戻り値によらず `E` が入る。収まらなければ "Panic action too long" で -1 を返し、`E` の先頭の
一部が入るか、`cmd` に `%e` がないときに限り元のまま残る。失敗した呼び出しが前の `panic_action` を残すのは、
この最後の場合だけである。 -/
theorem frFaultSetup_panicAction (env : Env) (st : FaultState) (cmd program : Option CStr)
    (hlen : ∀ c ∈ cmd, c.chars.length ≤ INT_MAX) :
    let E := setupExpansion cmd program
    let r := frFaultSetup env st cmd program
    (E.length < panicActionSize ∧ r.2.panicStr = E) ∨
    (panicActionSize ≤ E.length ∧ r.1 = .error "Panic action too long" ∧
      (r.2.panicStr <+: E ∨ ((∀ c ∈ cmd, strstr c.chars ['%', 'e'] = none) ∧
        r.2.panicAction = st.panicAction))) := by
  rcases Nat.lt_or_ge (setupExpansion cmd program).length panicActionSize with h | h
  · exact .inl ⟨h, (frFaultSetup_fit hlen h).2⟩
  · exact .inr ⟨h, frFaultSetup_long hlen h⟩

theorem frFaultSetup_panicAction_binTrue :
    let cmd : Option CStr := some ⟨"/bin/true".toList, by decide⟩
    let env : Env := ⟨fun _ => none, fun _ => none, 1, fun _ => 0, ⟨false, fun _ => true, true, ""⟩, fun _ => '\x00'⟩
    let r := frFaultSetup env (FaultState.init ⟨0, ⟨0, 0⟩⟩) cmd none
    (∀ c ∈ cmd, c.chars.length ≤ INT_MAX) ∧
    ((setupExpansion cmd none).length < panicActionSize ∧ r.2.panicStr = setupExpansion cmd none ∨
      panicActionSize ≤ (setupExpansion cmd none).length ∧ r.1 = .error "Panic action too long" ∧
        (r.2.panicStr <+: setupExpansion cmd none ∨ ((∀ c ∈ cmd, strstr c.chars ['%', 'e'] = none) ∧
          r.2.panicAction = (FaultState.init ⟨0, ⟨0, 0⟩⟩).panicAction))) :=
  have hlen : ∀ c ∈ (some ⟨"/bin/true".toList, by decide⟩ : Option CStr), c.chars.length ≤ INT_MAX := by
    rintro c ⟨⟩; decide
  ⟨hlen, frFaultSetup_panicAction _ _ _ none hlen⟩

/-- 失敗した呼び出しも `panic_action` を書き換える：`/bin/true` で成功した後、誰でも書ける `/tmp/ww` での呼び出しは
-1 を返すが、`panic_action` は `/tmp/ww` になる。 -/
theorem frFaultSetup_rejected_overwrites :
    let env : Env := ⟨fun p => if p = "/tmp/ww".toList then some 0o666 else none, fun _ => none, 42,
      fun _ => 0, ⟨false, fun _ => true, true, ""⟩, fun _ => '\x00'⟩
    let r1 := frFaultSetup env (FaultState.init ⟨0, ⟨0, 0⟩⟩) (some ⟨"/bin/true".toList, by decide⟩) none
    let r2 := frFaultSetup env r1.2 (some ⟨"/tmp/ww".toList, by decide⟩) none
    r1.1 = .ok () ∧ r1.2.panicStr = "/bin/true".toList ∧
      r2.1 = .error "panic_action file \"/tmp/ww\" is globally writable" ∧
      r2.2.panicStr = "/tmp/ww".toList := by
  intro env r1 r2
  have hlen1 : ∀ c ∈ some (⟨"/bin/true".toList, by decide⟩ : CStr), c.chars.length ≤ INT_MAX := by
    rintro c ⟨⟩; decide
  have hlen2 : ∀ c ∈ some (⟨"/tmp/ww".toList, by decide⟩ : CStr), c.chars.length ≤ INT_MAX := by
    rintro c ⟨⟩; decide
  exact ⟨(@frFaultSetup_fit_fst env _ _ _ hlen1 (by decide) fun _ => rfl).trans rfl,
    (@frFaultSetup_fit env _ _ _ hlen1 (by decide)).2.trans (by decide),
    (@frFaultSetup_fit_fst env r1.2 _ _ hlen2 (by decide) fun _ => rfl).trans rfl,
    (@frFaultSetup_fit env r1.2 _ _ hlen2 (by decide)).2.trans (by decide)⟩

/-! ## 呼び出しの列 -/

/-- プロセスの始まりからどの `fr_fault_setup` の列の後でも、`panic_action` の 512 バイトの中に NUL がある：
`fr_fault` が読む C の文字列は配列の中で終わる。 -/
theorem panicAction_terminated (env : Env) (k : Kernel) (calls : List (Option CStr × Option CStr)) :
    ∃ i < panicActionSize, (runFaultSetup env (FaultState.init k) calls).panicAction i = '\x00' :=
  PanicNul.run ⟨0, by decide, rfl⟩ calls

/-- 一度 0 を返した後は、その後のどの `fr_fault_setup` の列も、シグナルの処理を変えない。 -/
theorem frFaultSetup_handlers_stable (env : Env) (st : FaultState) (cmd program : Option CStr)
    (hok : (frFaultSetup env st cmd program).1 = .ok ()) (calls : List (Option CStr × Option CStr)) :
    (runFaultSetup env (frFaultSetup env st cmd program).2 calls).handlers =
      (frFaultSetup env st cmd program).2.handlers :=
  runFaultSetup_handlers (frFaultSetup_setup_of_ok hok) calls

theorem frFaultSetup_handlers_stable_null :
    let env : Env := ⟨fun _ => none, fun _ => none, 1, fun _ => 0, ⟨false, fun _ => true, true, ""⟩, fun _ => '\x00'⟩
    let r := frFaultSetup env (FaultState.init ⟨0, ⟨0, 0⟩⟩) none none
    r.1 = .ok () ∧
      (runFaultSetup env r.2 [(some ⟨"/bin/true".toList, by decide⟩, none)]).handlers = r.2.handlers :=
  ⟨rfl, frFaultSetup_handlers_stable ⟨fun _ => none, fun _ => none, 1, fun _ => 0, ⟨false, fun _ => true, true, ""⟩, fun _ => '\x00'⟩
    (FaultState.init ⟨0, ⟨0, 0⟩⟩) none none rfl _⟩

/-! ## `%p` の置き換え -/

/-- `fr_fault` の `%p` の置き換え。`panic_action` の文字列が 511 文字以下で、番号が int に収まるとき、置き換えた
`X` が 532 文字以上なら `fr_exit_now(1)` に行き `system` を呼ばず、そうでなければ `system` に `X` をそのまま渡す。
どちらの道でも `cmd` の外には書かない。`%p` が二つ以下なら `X` はいつも収まる。 -/
theorem frFault_pidExpansion (env : Env) (st : FaultState) (sig : Int)
    (hP : st.panicStr.length ≤ 511) (hpid : env.pid ≤ INT_MAX)
    (hperm : frFaultCheckPermissions env.stat st.panicStr = .ok ()) (hcb : CbContinues st sig)
    (hne : st.panicStr ≠ []) :
    let X := subst 'p' (decimal env.pid) st.panicStr
    (cmdSize ≤ X.length → (frFault env st sig).1 = [.log (.caught sig), .log .tooLong, .exit 1]) ∧
    (X.length < cmdSize → FaultEvent.system X ∈ (frFault env st sig).1) ∧
    (∀ c, FaultEvent.system c ∈ (frFault env st sig).1 → c = X) ∧
    (∀ m, (expandPid env.stack env.pid st.panicStr = .ok m ∨ expandPid env.stack env.pid st.panicStr = .error m) →
      ∀ i, cmdSize ≤ i → m i = env.stack i) ∧
    (tokCount 'p' st.panicStr ≤ 2 → X.length < cmdSize) := by
  intro X
  have hP' : st.panicStr.length ≤ INT_MAX := le_trans hP (by decide)
  refine ⟨fun hlong => ?_, fun hfit => ?_, fun c hc => frFault_system_eq hP' hc, fun m hm i hi => ?_,
    fun ht => ?_⟩
  · rcases expandPid_spec env.stack env.pid hP' with ⟨h, -⟩ | ⟨-, m, hm, -⟩
    · exact absurd h (Nat.not_lt.mpr hlong)
    · exact frFault_tooLong hperm hcb hne hm
  · exact system_mem_frFault_of_fit hperm hcb hne hP' hfit
  · exact (substLoop_inWindow ⟨cmdInit env.stack, 0, cmdSize, st.panicStr⟩ hm i (.inr (by simpa using hi))).trans
      (if_neg (Nat.not_lt.mpr hi))
  · have hlen := @length_subst 'p' (decimal env.pid) st.panicStr
    have hd := Nat.mul_le_mul_left (tokCount 'p' st.panicStr) (decimal_length_le hpid)
    show (subst 'p' (decimal env.pid) st.panicStr).length < 532
    omega

theorem frFault_pidExpansion_gdb :
    let env : Env := ⟨fun _ => none, fun _ => none, 4242, fun _ => 0, ⟨false, fun _ => true, true, ""⟩, fun _ => 'X'⟩
    let st : FaultState := { FaultState.init ⟨0, ⟨0, 0⟩⟩ with
      panicAction := (FaultState.init ⟨0, ⟨0, 0⟩⟩).panicAction.write 0 ("gdb -p %p".toList ++ ['\x00']) }
    let X := subst 'p' (decimal env.pid) st.panicStr
    (cmdSize ≤ X.length → (frFault env st SIGSEGV).1 = [.log (.caught SIGSEGV), .log .tooLong, .exit 1]) ∧
    (X.length < cmdSize → FaultEvent.system X ∈ (frFault env st SIGSEGV).1) ∧
    (∀ c, FaultEvent.system c ∈ (frFault env st SIGSEGV).1 → c = X) ∧
    (∀ m, (expandPid env.stack env.pid st.panicStr = .ok m ∨ expandPid env.stack env.pid st.panicStr = .error m) →
      ∀ i, cmdSize ≤ i → m i = env.stack i) ∧
    (tokCount 'p' st.panicStr ≤ 2 → X.length < cmdSize) :=
  frFault_pidExpansion _ _ SIGSEGV (by decide) (by decide) rfl (fun _ h => by cases h) (by decide)

/-! ## 二段の置き換え -/

/-- `fr_fault_setup(cmd, program)` が 0 を返し、その後 `panic_action` が変わらなければ、`fr_fault` が `system(c)`
を呼ぶとき、`c` は `%e` を置き換えた後に `%p` を置き換えた文字列である（二段目は置き換えた名前も読む）。名前が
空でなく、`%` を含まず、`p` で始まらなければ、これは一度の置き換えと一致する。 -/
theorem frFault_after_setup (env env' : Env) (st st' : FaultState) (cmd program : Option CStr) (sig : Int)
    (hlen : ∀ c ∈ cmd, c.chars.length ≤ INT_MAX) (hok : (frFaultSetup env st cmd program).1 = .ok ())
    (hpa : st'.panicAction = (frFaultSetup env st cmd program).2.panicAction) {c : List Char}
    (hsys : FaultEvent.system c ∈ (frFault env' st' sig).1) :
    c = subst 'p' (decimal env'.pid) (setupExpansion cmd program) ∧
    ∀ t ∈ cmd, ∀ p ∈ program, p.chars ≠ [] → '%' ∉ p.chars → p.chars.head? ≠ some 'p' →
      c = expandOnce p.chars (decimal env'.pid) t.chars := by
  have hfit : (setupExpansion cmd program).length < panicActionSize := by
    refine Nat.lt_of_not_le fun h => ?_
    rw [(frFaultSetup_long hlen h).1] at hok
    cases hok
  have hP : st'.panicStr = setupExpansion cmd program := by
    rw [← (@frFaultSetup_fit env st _ _ hlen hfit).2]
    simp only [FaultState.panicStr, hpa]
  have hc := frFault_system_eq (le_trans (hP ▸ le_of_lt hfit) (by decide)) hsys
  rw [hP] at hc
  refine ⟨hc, fun t ht p hp h1 h2 h3 => ?_⟩
  rw [Option.mem_def] at ht hp
  subst ht hp
  rw [hc, setupExpansion, Option.map_some', Option.getD_some, subst_subst_eq_expandOnce h1 h2 h3]

theorem frFault_after_setup_gdb :
    let env : Env := ⟨fun _ => none, fun _ => none, 42, fun _ => 0, ⟨false, fun _ => true, true, ""⟩, fun _ => '\x00'⟩
    let cmd : Option CStr := some ⟨"gdb %e %p".toList, by decide⟩
    let program : Option CStr := some ⟨"radiusd".toList, by decide⟩
    "gdb radiusd 42".toList = subst 'p' (decimal env.pid) (setupExpansion cmd program) ∧
    ∀ t ∈ cmd, ∀ p ∈ program, p.chars ≠ [] → '%' ∉ p.chars → p.chars.head? ≠ some 'p' →
      "gdb radiusd 42".toList = expandOnce p.chars (decimal env.pid) t.chars := by
  intro env cmd program
  have hlen : ∀ c ∈ cmd, c.chars.length ≤ INT_MAX := by
    rintro c hc; simp only [cmd, Option.mem_def, Option.some.injEq] at hc; subst hc; decide
  obtain ⟨hok, hsys⟩ := @system_mem_frFault_after_setup env (FaultState.init ⟨0, ⟨0, 0⟩⟩) SIGSEGV cmd program hlen (by decide) rfl (fun _ => rfl) (fun _ h => by cases h)
    (by decide) (by decide)
  have hX : subst 'p' (decimal env.pid) (setupExpansion cmd program) = "gdb radiusd 42".toList := by decide
  rw [hX] at hsys
  exact frFault_after_setup env env _ _ cmd program SIGSEGV hlen hok rfl hsys

/-- 二段目は一段目が入れた名前も読む：名前 `a%pb` の `%p` は番号に置き換わる。 -/
theorem frFault_rescans_program_name :
    let env : Env := ⟨fun _ => none, fun _ => none, 42, fun _ => 0, ⟨false, fun _ => true, true, ""⟩, fun _ => '\x00'⟩
    let r := frFaultSetup env (FaultState.init ⟨0, ⟨0, 0⟩⟩) (some ⟨"gdb %e".toList, by decide⟩)
      (some ⟨"a%pb".toList, by decide⟩)
    r.1 = .ok () ∧ ∃ c, FaultEvent.system c ∈ (frFault env r.2 SIGSEGV).1 ∧
      c ≠ expandOnce "a%pb".toList (decimal 42) "gdb %e".toList := by
  intro env r
  obtain ⟨hok, hsys⟩ := @system_mem_frFault_after_setup env (FaultState.init ⟨0, ⟨0, 0⟩⟩) SIGSEGV
    (some ⟨"gdb %e".toList, by decide⟩) (some ⟨"a%pb".toList, by decide⟩)
    (by rintro c ⟨⟩; decide) (by decide) rfl (fun _ => rfl) (fun _ h => by cases h) (by decide) (by decide)
  exact ⟨hok, _, hsys, by decide⟩

/-! ## dumpable 属性 -/

/-- `fr_fault` は、属性が 1 でなかったプロセスを 1 のまま残さない：`system` の後に 0 に戻すか、戻せなければ
"Exiting due to insecure process state" を書いて `fr_exit_now(1)` で終わる。 -/
theorem frFault_never_leaves_dumpable (env : Env) (st : FaultState) (sig : Int)
    (h : (frFault env st sig).2.kernel.dumpable = 1) :
    st.kernel.dumpable = 1 ∨ (FaultEvent.log .insecure ∈ (frFault env st sig).1 ∧
      (frFault env st sig).1.getLast? = some (.exit 1)) := by
  rcases @frFault_cases env st sig with ⟨_, _, -, hf⟩ | hf | ⟨cmd, hf⟩ <;> rw [hf] at h ⊢
  · exact .inl h
  · exact .inl h
  · exact (callPanicAction_dumpable h).imp_right fun ⟨hi, hl⟩ =>
      ⟨List.mem_cons_of_mem _ hi, by simp [List.getLast?_cons, hl]⟩

/-- 属性を 1 に上げることはできるが、0 に戻すことはできないカーネル。 -/
def resetFailsEnv : Env :=
  ⟨fun _ => none, fun _ => none, 1, fun _ => 0,
    ⟨false, fun r => match r with | .setDumpable 0 => false | _ => true, true, "Operation not permitted"⟩,
    fun _ => '\x00'⟩

/-- `panic_action` が `/bin/true` で、dumpable 属性が 0 のプロセス。 -/
def binTrueState : FaultState :=
  { FaultState.init ⟨0, ⟨0, 0⟩⟩ with
    panicAction := (FaultState.init ⟨0, ⟨0, 0⟩⟩).panicAction.write 0 ("/bin/true".toList ++ ['\x00']) }

theorem frFault_never_leaves_dumpable_reset_fails :
    binTrueState.kernel.dumpable = 0 ∧
      FaultEvent.log .tempDumpable ∈ (frFault resetFailsEnv binTrueState SIGSEGV).1 ∧
      FaultEvent.log .resetDumpable ∈ (frFault resetFailsEnv binTrueState SIGSEGV).1 ∧
      (frFault resetFailsEnv binTrueState SIGSEGV).2.kernel.dumpable = 1 ∧
      (binTrueState.kernel.dumpable = 1 ∨
        (FaultEvent.log .insecure ∈ (frFault resetFailsEnv binTrueState SIGSEGV).1 ∧
          (frFault resetFailsEnv binTrueState SIGSEGV).1.getLast? = some (.exit 1))) :=
  have h := @frFault_eq_callPanicAction resetFailsEnv binTrueState SIGSEGV rfl (fun _ h => by cases h) (by decide)
    (by decide) (by decide)
  have hd : (frFault resetFailsEnv binTrueState SIGSEGV).2.kernel.dumpable = 1 := by rw [h]; decide
  ⟨rfl, by rw [h]; decide, by rw [h]; decide, hd, frFault_never_leaves_dumpable _ _ SIGSEGV hd⟩

/-! ## `fr_exit_now` -/

/-- `fr_fault` は、`SIGUSR1` でなければ必ず `fr_exit_now(1)` で終わる。`fr_exit_now` を呼べば、それは最後の
`fr_exit_now(1)` で、`SIGUSR1` のときは "Panic action too long" か "Exiting due to insecure process state" を
書いたときに限る。 -/
theorem frFault_exit (env : Env) (st : FaultState) (sig : Int) :
    (sig ≠ SIGUSR1 → (frFault env st sig).1.getLast? = some (.exit 1)) ∧
    ∀ code, FaultEvent.exit code ∈ (frFault env st sig).1 →
      code = 1 ∧ (frFault env st sig).1.getLast? = some (.exit 1) ∧
      (sig ≠ SIGUSR1 ∨ FaultEvent.log .tooLong ∈ (frFault env st sig).1 ∨
        FaultEvent.log .insecure ∈ (frFault env st sig).1) := by
  rcases @frFault_cases env st sig with ⟨_, _, hr, h⟩ | h | ⟨cmd, h⟩ <;> rw [h]
  · refine ⟨(faultFinish_exit ?_).1, fun code hc => ((faultFinish_exit ?_).2 code hc).imp_right
      (And.imp_right .inl)⟩ <;> simpa using hr
  · exact ⟨fun _ => rfl, fun _ hc => ⟨by simpa using hc, rfl, .inr (.inl (by simp))⟩⟩
  · obtain ⟨h1, h2⟩ := @callPanicAction_exit env st sig cmd
    refine ⟨fun hs => by simp [List.getLast?_cons, h1 hs], fun code hc => ?_⟩
    obtain ⟨hc1, hl, hor⟩ := h2 code ((List.mem_cons.mp hc).resolve_left (by simp))
    exact ⟨hc1, by simp [List.getLast?_cons, hl], hor.imp_right fun h => .inr (List.mem_cons_of_mem _ h)⟩

/-- `SIGUSR1` でも、属性を 0 に戻せなければ `fr_fault` は "Exiting due to insecure process state" を書いて
`fr_exit_now(1)` で終わる。 -/
theorem frFault_exit_usr1_reset_fails :
    FaultEvent.exit 1 ∈ (frFault resetFailsEnv binTrueState SIGUSR1).1 ∧
      (frFault resetFailsEnv binTrueState SIGUSR1).1.getLast? = some (.exit 1) ∧
      FaultEvent.log .insecure ∈ (frFault resetFailsEnv binTrueState SIGUSR1).1 := by
  have h := @frFault_eq_callPanicAction resetFailsEnv binTrueState SIGUSR1 rfl (fun _ h => by cases h) (by decide)
    (by decide) (by decide)
  have hx : FaultEvent.exit 1 ∈ (frFault resetFailsEnv binTrueState SIGUSR1).1 := by rw [h]; decide
  exact ⟨hx, ((frFault_exit resetFailsEnv binTrueState SIGUSR1).2 1 hx).2.1, by rw [h]; decide⟩

/-! ## 権限の検査が見る名前 -/

/-- 空白かタブ。 -/
def isBlank (ch : Char) : Bool := ch = ' ' || ch = '\t'

/-- シェルが実行する名前：先頭の空白とタブを飛ばした後の、空白とタブを含まない最長の並び。 -/
def shellFirstWord (c : List Char) : List Char :=
  (c.dropWhile isBlank).takeWhile fun ch => !isBlank ch

/-- `fr_fault_check_permissions` は `%p` を置き換える前の `panic_action` を調べる：`/tmp/x%p` は `stat` に
失敗して通るが、番号 42 のプロセスの `fr_fault` は誰でも書ける `/tmp/x42` を実行する。 -/
theorem frFault_runs_unchecked_binary :
    let env : Env := ⟨fun p => if p = "/tmp/x42".toList then some 0o777 else none, fun _ => none, 42,
      fun _ => 0, ⟨false, fun _ => true, true, ""⟩, fun _ => '\x00'⟩
    let r := frFaultSetup env (FaultState.init ⟨0, ⟨0, 0⟩⟩) (some ⟨"/tmp/x%p".toList, by decide⟩) none
    r.1 = .ok () ∧ ∃ c, FaultEvent.system c ∈ (frFault env r.2 SIGSEGV).1 ∧
      ∃ mode, env.stat (shellFirstWord c) = some mode ∧ mode &&& S_IWOTH ≠ 0 := by
  intro env r
  obtain ⟨hok, hsys⟩ := @system_mem_frFault_after_setup env (FaultState.init ⟨0, ⟨0, 0⟩⟩) SIGSEGV
    (some ⟨"/tmp/x%p".toList, by decide⟩) none
    (by rintro c ⟨⟩; decide) (by decide) rfl (fun _ => rfl) (fun _ h => by cases h) (by decide) (by decide)
  exact ⟨hok, _, hsys, 0o777, by decide, by decide⟩

/-! ## `%e` のループの窓 -/

/-- `fr_fault_setup` の `%e` のループは、`cmd` の長さによらず、どの道でも `panic_action[0..511]` の外に書かない。
ループが通るどの状態でも `left` は 1 以上で、`out + left` は 512 のままである。 -/
theorem expandProgram_inBounds (pa : Mem) (program cmd : List Char) :
    (∀ m, (expandProgram pa program cmd = .ok m ∨ expandProgram pa program cmd = .error m) →
      ∀ i, panicActionSize ≤ i → m i = pa i) ∧
    ∀ t, LoopReach 'e' program ⟨pa, 0, panicActionSize, cmd⟩ t →
      1 ≤ t.left ∧ t.out + t.left = panicActionSize :=
  ⟨fun _ hm i hi => substLoop_inWindow _ hm i (.inr (by simpa using hi)),
    fun _ ht => by simpa using ht.left_pos (show 1 ≤ panicActionSize by decide)⟩

/-! ## `%e` の位置の折り返し -/

theorem nul_not_mem_replicate_append (n : Nat) : '\x00' ∉ List.replicate n 'A' ++ ['%', 'e'] := by
  intro h
  simp only [List.mem_append, List.mem_replicate, List.mem_cons, List.not_mem_nil, or_false] at h
  rcases h with ⟨-, h⟩ | h | h <;> exact absurd h (by decide)

/-- `(int) (q - p)` は `%e` の位置を 2^32 で折り返す。`cmd` が 2^32 の倍数の個数の文字の後に `%e` を一つ持てば、
ループはその手前を捨てて名前だけを `panic_action` に書き、置き換えが 512 バイトを超えても 0 を返す。 -/
theorem frFaultSetup_wrapped_offset (env : Env) (st : FaultState) (program : CStr) {n : Nat}
    (hn : n % 2 ^ 32 = 0) (hn0 : 0 < n) (hprog : program.chars.length < panicActionSize)
    (hperm : frFaultCheckPermissions env.stat program.chars = .ok ())
    (hsig : ∀ sig, env.setSignal sig = none) :
    let cmd : CStr := ⟨List.replicate n 'A' ++ ['%', 'e'], nul_not_mem_replicate_append n⟩
    panicActionSize ≤ (setupExpansion (some cmd) (some program)).length ∧
      (frFaultSetup env st (some cmd) (some program)).1 = .ok () ∧
      (frFaultSetup env st (some cmd) (some program)).2.panicStr = program.chars := by
  intro cmd
  have hw : writePanicAction st.panicAction (some cmd) (some program) =
      .ok (st.panicAction.write 0 (program.chars ++ ['\x00'])) :=
    substLoop_wrap _ (by decide) hn rfl hprog (show panicActionSize ≤ INT_MAX by decide)
  have hP : ({ st with panicAction := st.panicAction.write 0 (program.chars ++ ['\x00']) } : FaultState).panicStr =
      program.chars := readStr_write program.nul_free hprog
  refine ⟨?_, by rw [frFaultSetup_of_ok hw, setupRest_fst hsig, hP, hperm],
    by rw [frFaultSetup_of_ok hw, setupRest_panicStr, hP]⟩
  have hE := (@strstr_some _ program.chars _ _ (strstr_replicate_append (c := 'e') (by decide : 'A' ≠ '%') n)).2
  show panicActionSize ≤ (subst 'e' program.chars (List.replicate n 'A' ++ ['%', 'e'])).length
  rw [hE]
  simp only [List.length_append, List.length_take, List.length_replicate]
  unfold panicActionSize
  omega

theorem frFaultSetup_wrapped_offset_four_gib :
    let env : Env := ⟨fun _ => none, fun _ => none, 42, fun _ => 0, ⟨false, fun _ => true, true, ""⟩, fun _ => '\x00'⟩
    let program : CStr := ⟨['x'], by decide⟩
    let cmd : CStr := ⟨List.replicate (2 ^ 32) 'A' ++ ['%', 'e'], nul_not_mem_replicate_append _⟩
    panicActionSize ≤ (setupExpansion (some cmd) (some program)).length ∧
      (frFaultSetup env (FaultState.init ⟨0, ⟨0, 0⟩⟩) (some cmd) (some program)).1 = .ok () ∧
      (frFaultSetup env (FaultState.init ⟨0, ⟨0, 0⟩⟩) (some cmd) (some program)).2.panicStr = ['x'] :=
  frFaultSetup_wrapped_offset _ _ ⟨['x'], by decide⟩ (Nat.mod_self _) (by decide) (by decide) rfl (fun _ => rfl)

end FreeRadiusDebug
