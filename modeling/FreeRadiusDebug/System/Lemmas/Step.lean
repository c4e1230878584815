import FreeRadiusDebug.System.Process

/-!
# プロセスの一歩の補題

`fr_fault_setup` の登録の部分が何を登録するか、`fr_fault` とシグナルの処理が状態のどこを変えるか、`debugStep`
の一歩が何をしうるかを一度ずつ示す。不変条件と呼び出しの列についての定理は、これらを引くだけで済む。
-/

namespace FreeRadiusDebug

/-! ## シグナルの登録 -/

section Install

variable {env : Env}

theorem installedSignals_prefix_map : ∀ l : List (Int × Handler), installedSignals env l <+: l.map Prod.fst
  | [] => List.prefix_refl _
  | (sig, _) :: rest => by
      unfold installedSignals
      split
      · exact List.nil_prefix
      · exact (List.prefix_cons_inj sig).mpr (installedSignals_prefix_map rest)

theorem installHandlers_fst_eq_none_iff :
    ∀ (l : List (Int × Handler)) (h : Int → Handler),
      (installHandlers env l h).1 = none ↔ (installedSignals env l).length = l.length
  | [], _ => by simp [installHandlers, installedSignals]
  | (sig, hd) :: rest, h => by
      unfold installHandlers installedSignals
      split <;> rename_i hn <;> simp [hn, installHandlers_fst_eq_none_iff rest]

theorem installHandlers_snd_of_not_mem :
    ∀ (l : List (Int × Handler)) (h : Int → Handler) {sig : Int},
      sig ∉ installedSignals env l → (installHandlers env l h).2 sig = h sig
  | [], _, _, _ => rfl
  | (sig', hd) :: rest, h, sig, hs => by
      unfold installHandlers
      unfold installedSignals at hs
      split
      · rfl
      · rename_i hn
        rw [hn, List.mem_cons, not_or] at hs
        rw [installHandlers_snd_of_not_mem rest _ hs.2, Function.update_noteq hs.1]

theorem installHandlers_snd_of_mem :
    ∀ (l : List (Int × Handler)) (h : Int → Handler) {sig : Int} {hd : Handler},
      (l.map Prod.fst).Nodup → (sig, hd) ∈ l → sig ∈ installedSignals env l → (installHandlers env l h).2 sig = hd
  | [], _, _, _, _, hm, _ => absurd hm (List.not_mem_nil _)
  | (sig', hd') :: rest, h, sig, hd, hnd, hm, hs => by
      unfold installHandlers
      unfold installedSignals at hs
      split
      · rename_i hn; rw [hn] at hs; cases hs
      · rename_i hn
        rw [hn] at hs
        rw [List.map_cons, List.nodup_cons] at hnd
        rcases List.mem_cons.mp hm with he | hm
        · obtain ⟨rfl, rfl⟩ := Prod.mk.inj he
          rw [installHandlers_snd_of_not_mem rest _ fun h' => hnd.1 ((installedSignals_prefix_map rest).subset h'),
            Function.update_same]
        · have hne : sig ≠ sig' := fun he => hnd.1 (List.mem_map.mpr ⟨(sig, hd), hm, he⟩)
          exact installHandlers_snd_of_mem rest _ hnd.2 hm ((List.mem_cons.mp hs).resolve_left hne)

theorem installHandlers_snd_mem :
    ∀ (l : List (Int × Handler)) (h : Int → Handler) (sig : Int),
      (installHandlers env l h).2 sig = h sig ∨ (sig, (installHandlers env l h).2 sig) ∈ l
  | [], _, _ => .inl rfl
  | (sig', hd') :: rest, h, sig => by
      unfold installHandlers
      split
      · exact .inl rfl
      · rcases installHandlers_snd_mem rest (Function.update h sig' hd') sig with h1 | h1
        · rw [h1]
          by_cases he : sig = sig'
          · subst he; rw [Function.update_same]; exact .inr (List.mem_cons_self _ _)
          · rw [Function.update_noteq he]; exact .inl rfl
        · exact .inr (List.mem_cons_of_mem _ h1)

theorem setSignal_of_mem_installedSignals :
    ∀ {l : List (Int × Handler)} {sig : Int}, sig ∈ installedSignals env l → env.setSignal sig = none
  | [], _, h => nomatch h
  | (sig', _) :: rest, sig, h => by
      unfold installedSignals at h
      split at h
      · cases h
      · rename_i hn
        rcases List.mem_cons.mp h with rfl | h
        · exact hn
        · exact setSignal_of_mem_installedSignals h

theorem setupSignals_nodup : (setupSignals.map Prod.fst).Nodup := by decide

theorem installedSignals_eq_of_length (h : (installedSignals env setupSignals).length = setupSignals.length) :
    installedSignals env setupSignals = setupSignals.map Prod.fst :=
  (installedSignals_prefix_map setupSignals).eq_of_length (by rw [h, List.length_map])

/-- `SIGUSR2` は最後に登録する：それを登録できたなら、六つとも登録できた。 -/
theorem installedSignals_length_of_usr2 (h : SIGUSR2 ∈ installedSignals env setupSignals) :
    (installedSignals env setupSignals).length = setupSignals.length := by
  have key : ∀ n < setupSignals.length, SIGUSR2 ∉ (setupSignals.map Prod.fst).take n := by decide
  have hp := @installedSignals_prefix_map env setupSignals
  have hle := hp.length_le
  rw [List.length_map] at hle
  rw [List.prefix_iff_eq_take.mp hp] at h
  by_contra hne
  exact key _ (lt_of_le_of_ne hle hne) h

theorem installHandlers_of_length (h : (installedSignals env setupSignals).length = setupSignals.length)
    (hd : Int → Handler) : ∀ p ∈ setupSignals, (installHandlers env setupSignals hd).2 p.1 = p.2 := fun _ hp =>
  installHandlers_snd_of_mem _ _ setupSignals_nodup hp
    ((installedSignals_eq_of_length h).symm ▸ List.mem_map_of_mem Prod.fst hp)

end Install

/-! ## `fr_fault_setup` -/

section FaultSetup

variable {env : Env} {st : FaultState} {cmd program : Option CStr}

theorem setup_of_setupBlockRuns (h : setupBlockRuns env st cmd program = true) : st.setup = false := by
  unfold setupBlockRuns at h
  split at h
  · cases h
  · split at h
    · cases h
    · simpa using h

/-- 登録の部分に入らなければ、`fr_fault_setup` が変えるのは `panic_action` と `fr_strerror` だけ。 -/
theorem frFaultSetup_of_not_runs (h : setupBlockRuns env st cmd program = false) :
    ∃ pa err, (frFaultSetup env st cmd program).2 = { st with panicAction := pa, strerror := err } := by
  unfold setupBlockRuns at h
  unfold frFaultSetup
  split
  · exact ⟨_, _, rfl⟩
  · rename_i m hm
    unfold setupRest
    split
    · exact ⟨_, _, rfl⟩
    · rename_i hc
      simp only [FaultState.panicStr] at hc
      simp only [hm, hc, Bool.not_eq_false'] at h
      dsimp only
      rw [if_pos h]
      exact ⟨_, _, rfl⟩

/-- 登録の部分に入れば、処理は `installHandlers` が返すもので、`setup` が立つのは六つとも登録できたとき。 -/
theorem frFaultSetup_of_runs (h : setupBlockRuns env st cmd program = true) :
    (frFaultSetup env st cmd program).2.handlers = (installHandlers env setupSignals st.handlers).2 ∧
      ((frFaultSetup env st cmd program).2.setup = true ↔
        (installedSignals env setupSignals).length = setupSignals.length) := by
  have hs := setup_of_setupBlockRuns h
  unfold setupBlockRuns at h
  unfold frFaultSetup
  split
  · rename_i m hm; simp only [hm] at h; cases h
  · rename_i m hm
    unfold setupRest
    split
    · rename_i e hc
      simp only [FaultState.panicStr] at hc
      simp only [hm, hc] at h; cases h
    · dsimp only
      simp only [hs, Bool.false_eq_true, if_false]
      rw [← installHandlers_fst_eq_none_iff setupSignals st.handlers]
      split <;> rename_i hi <;> simp [hi, hs]

@[simp] theorem frFaultSetup_kernel : (frFaultSetup env st cmd program).2.kernel = st.kernel := by
  unfold frFaultSetup setupRest
  split
  · rfl
  · split
    · rfl
    · split
      · rfl
      · split <;> rfl

end FaultSetup

/-! ## `fr_fault` が変えるもの -/

section Fault

variable {env : Env} {st : FaultState} {sig : Int}

theorem frGetDumpableFlag_fst (caps : Caps) (k : Kernel) :
    (frGetDumpableFlag caps k).1 =
      if caps.prctlOk .getDumpable then (if k.dumpable = 1 then 1 else 0) else -1 := by
  unfold frGetDumpableFlag prctlGetDumpable
  by_cases hp : caps.prctlOk .getDumpable = true <;> simp only [hp, if_true, if_false, Bool.false_eq_true]
  · split_ifs <;> omega
  · rfl

theorem frSetDumpableFlag_of_prctlOk {caps : Caps} (k : Kernel) (b : Bool)
    (hp : caps.prctlOk (.setDumpable (if b then 1 else 0)) = true) :
    frSetDumpableFlag caps k b = .ok { k with dumpable := if b then 1 else 0 } := by
  simp only [frSetDumpableFlag, prctlSetDumpable, hp, if_true]

/-- 属性を上げる部分は、何もしないか、属性が 1 でなかったときに 1 にして、戻す約束をする。 -/
theorem raiseDumpable_cases (caps : Caps) (st : FaultState) :
    ((raiseDumpable caps st).2.1 = false ∧ (raiseDumpable caps st).2.2.1 = st.kernel) ∨
    ((raiseDumpable caps st).2.1 = true ∧ st.kernel.dumpable ≠ 1 ∧
      (raiseDumpable caps st).2.2.1 = { st.kernel with dumpable := 1 }) := by
  unfold raiseDumpable
  by_cases hg : caps.prctlOk .getDumpable = true
  · by_cases hd : st.kernel.dumpable = 1
    · left
      simp [frGetDumpableFlag_fst, hg, hd]
    · by_cases hs : caps.prctlOk (.setDumpable 1) = true
      · right
        simp [frGetDumpableFlag_fst, frSetDumpableFlag_of_prctlOk _ true hs, hg, hd]
      · left
        simp [frGetDumpableFlag_fst, frSetDumpableFlag, prctlSetDumpable, hg, hd, hs]
  · left
    simp [frGetDumpableFlag_fst, hg]

theorem callPanicAction_frame (cmd : List Char) :
    ∃ k e, (callPanicAction env st sig cmd).2 = { st with kernel := k, strerror := e } := by
  rcases h : raiseDumpable env.caps st with ⟨pre, disable, k, err⟩
  simp only [callPanicAction, h]
  split
  · split <;> exact ⟨_, _, rfl⟩
  · exact ⟨_, _, rfl⟩

/-- `fr_fault` が変えるのは、カーネルと `fr_strerror` だけ。 -/
theorem frFault_frame : ∃ k e, (frFault env st sig).2 = { st with kernel := k, strerror := e } := by
  rcases @frFault_cases env st sig with ⟨_, e, -, h⟩ | h | ⟨cmd, h⟩ <;> rw [h]
  · exact ⟨st.kernel, e, rfl⟩
  · exact ⟨st.kernel, st.strerror, rfl⟩
  · exact callPanicAction_frame cmd

theorem callPanicAction_dumpable_iff (cmd : List Char)
    (hx : ∀ code, FaultEvent.exit code ∉ (callPanicAction env st sig cmd).1) :
    (callPanicAction env st sig cmd).2.kernel.dumpable = 1 ↔ st.kernel.dumpable = 1 := by
  rcases h : raiseDumpable env.caps st with ⟨pre, disable, k, err⟩
  rcases raiseDumpable_cases env.caps st with ⟨hd, hk⟩ | ⟨hd, hne, hk⟩ <;>
    rw [h] at hd hk <;> simp only at hd hk <;> subst hd hk
  · simp only [callPanicAction, h]
    rfl
  · simp only [callPanicAction, h, if_true] at hx ⊢
    cases hr : frSetDumpableFlag env.caps { st.kernel with dumpable := 1 } false with
    | error e => exact (hx 1 (by simp [hr])).elim
    | ok k' => simp [dumpable_of_set_false hr, hne]

/-- `fr_exit_now` を呼ばない `fr_fault` の後に dumpable 属性が 1 なのは、前から 1 だったときに限る。 -/
theorem frFault_dumpable_iff (hx : ∀ code, FaultEvent.exit code ∉ (frFault env st sig).1) :
    (frFault env st sig).2.kernel.dumpable = 1 ↔ st.kernel.dumpable = 1 := by
  rcases @frFault_cases env st sig with ⟨_, _, -, h⟩ | h | ⟨cmd, h⟩
  · rw [h]
  · rw [h]
  · rw [h] at hx ⊢
    exact callPanicAction_dumpable_iff cmd fun code hc => hx code (List.mem_cons_of_mem _ hc)

theorem faultFinish_head {a : FaultEvent} {evs : List FaultEvent} : (faultFinish sig (a :: evs)).head? = some a := by
  unfold faultFinish; split <;> rfl

theorem frFault_head : (frFault env st sig).1.head? = some (.log (.caught sig)) := by
  rcases @frFault_cases env st sig with ⟨_, _, -, h⟩ | h | ⟨_, h⟩ <;> rw [h]
  · exact faultFinish_head
  · rfl
  · rfl

theorem exit_mem_faultFinish (hs : sig ≠ SIGUSR1) {evs : List FaultEvent} : FaultEvent.exit 1 ∈ faultFinish sig evs := by
  simp [faultFinish, hs]

theorem exit_mem_frFault (hs : sig ≠ SIGUSR1) : FaultEvent.exit 1 ∈ (frFault env st sig).1 := by
  rcases @frFault_cases env st sig with ⟨_, _, -, h⟩ | h | ⟨cmd, h⟩ <;> rw [h]
  · exact exit_mem_faultFinish hs
  · simp
  · exact List.mem_cons_of_mem _ (List.mem_of_mem_getLast? ((callPanicAction_exit cmd).1 hs))

end Fault

/-! ## `fr_set_dumpable` -/

theorem setrlimit_dumpable {caps : Caps} {k k' : Kernel} {l : RLimit} (h : setrlimit caps k l = some k') :
    k'.dumpable = k.dumpable := by
  unfold setrlimit at h
  split at h <;> cases h
  rfl

/-- `fr_set_dumpable` が dumpable 属性を 1 にするのは、許す呼び出しで `prctl` が使えるときだけ。止める呼び出しは
属性に触れない。 -/
theorem frSetDumpable_dumpable (caps : Caps) (d : DumpState) (allow : Bool) :
    (frSetDumpable caps d allow).2.kernel.dumpable =
      if allow && caps.prctlOk (.setDumpable 1) then 1 else d.kernel.dumpable := by
  cases allow
  · simp [frSetDumpable_false]
  · by_cases hp : caps.prctlOk (.setDumpable 1) = true
    · simp only [frSetDumpable, frSetDumpableFlag_of_prctlOk _ true hp, hp, Bool.not_true, if_true, Bool.and_self,
        Bool.false_eq_true, if_false]
      split
      · rfl
      · rename_i hk; exact setrlimit_dumpable hk
    · simp [frSetDumpable, frSetDumpableFlag, prctlSetDumpable, hp]

/-! ## プロセスの一歩が変えるもの -/

/-- 一歩が障害の処理の設定（登録、`setup`、`panic_action`、ログの関数、talloc のフック）を変えない。 -/
structure KeepsSetup (s s' : DebugState) : Prop where
  setup : s'.fault.setup = s.fault.setup
  handlers : s'.fault.handlers = s.fault.handlers
  panicAction : s'.fault.panicAction = s.fault.panicAction
  logFn : s'.hooks.logFn = s.hooks.logFn
  tallocAbort : s'.hooks.tallocAbort = s.hooks.tallocAbort
  tallocLog : s'.hooks.tallocLog = s.hooks.tallocLog

/-- シグナルの処理と talloc のフックが変えるのは、カーネルと `fr_strerror` だけで、dumpable 属性が 1 かどうかは
変えない。 -/
def FaultFrame (s s' : DebugState) : Prop :=
  ∃ k err, s' = { s with fault := { s.fault with kernel := k, strerror := err } } ∧
    (k.dumpable = 1 ↔ s.fault.kernel.dumpable = 1)

section Frame

variable {e : SysEnv} {s s' : DebugState} {sig : Int}

theorem FaultFrame.refl (s : DebugState) : FaultFrame s s := ⟨s.fault.kernel, s.fault.strerror, rfl, Iff.rfl⟩

theorem FaultFrame.keepsSetup (h : FaultFrame s s') : KeepsSetup s s' := by
  obtain ⟨k, err, rfl, -⟩ := h
  exact ⟨rfl, rfl, rfl, rfl, rfl, rfl⟩

theorem FaultFrame.dumpable (h : FaultFrame s s') : s'.fault.kernel.dumpable = 1 ↔ s.fault.kernel.dumpable = 1 := by
  obtain ⟨k, err, rfl, hk⟩ := h
  exact hk

theorem runFault_frame {env : Env} (h : (runFault env s sig).2 = some s') : FaultFrame s s' := by
  unfold runFault at h
  split at h
  · cases h
  · dsimp only at h
    split at h
    · cases h
    · rename_i hn
      cases h
      obtain ⟨k, err, hf⟩ := @frFault_frame env s.fault sig
      have hx : ∀ code, FaultEvent.exit code ∉ (frFault env s.fault sig).1 := fun _ hc =>
        hn (List.any_eq_true.mpr ⟨_, hc, rfl⟩)
      exact ⟨k, err, by rw [hf], by rw [← frFault_dumpable_iff hx, hf]⟩

theorem memReport_frame {renv : ReportEnv} (h : (memReport renv s sig).2 = some s') : FaultFrame s s' := by
  unfold memReport at h
  split at h
  · cases h
  · dsimp only at h
    split at h <;> cases h
    · exact FaultFrame.refl s
    · exact ⟨_, _, rfl, Iff.rfl⟩

theorem deliver_frame (h : (deliver e s sig).2 = some s') : FaultFrame s s' := by
  unfold deliver at h
  split at h
  · cases h
  · exact runFault_frame h
  · exact memReport_frame h

theorem tallocAbort_frame (h : (tallocAbort e s).2 = some s') : FaultFrame s s' := by
  unfold tallocAbort at h
  split at h
  · split at h
    · cases h
    · exact runFault_frame h
  · exact deliver_frame h

theorem panicFree_frame {env : Env} (h : (panicFree env s).2 = some s') : FaultFrame s s' := by
  unfold panicFree at h
  dsimp only at h
  split at h
  · exact runFault_frame h
  · rename_i s'' hs; cases h; exact runFault_frame hs

theorem tallocLog_frame (h : (tallocLog s).2 = some s') : FaultFrame s s' := by
  unfold tallocLog at h
  split at h
  · split at h
    · cases h
    · cases h; exact FaultFrame.refl s
  · cases h; exact FaultFrame.refl s

/-- `debugStep` の一歩がしうる事：`fr_fault_setup`、`fr_fault_set_log_fn`、設定を変えない一歩のどれか。 -/
theorem debugStep_cases {op : DebugOp} (h : (debugStep e s op).2 = some s') :
    (∃ cmd program, op = .faultSetup cmd program ∧ s' = (frFaultSetupSys e.env s cmd program).2) ∨
    (∃ func, op = .faultSetLogFn func ∧ s' = { s with hooks := frFaultSetLogFn s.hooks func }) ∨
    KeepsSetup s s' := by
  cases op with
  | faultSetup cmd program => exact .inl ⟨cmd, program, rfl, (Option.some.inj h).symm⟩
  | faultSetLogFn func => exact .inr (.inl ⟨func, rfl, (Option.some.inj h).symm⟩)
  | faultSetCb func => cases h; exact .inr (.inr ⟨rfl, rfl, rfl, rfl, rfl, rfl⟩)
  | faultSetLogFd fd => cases h; exact .inr (.inr ⟨rfl, rfl, rfl, rfl, rfl, rfl⟩)
  | setDumpableInit =>
      simp only [debugStep] at h
      split at h <;> cases h <;> exact .inr (.inr ⟨rfl, rfl, rfl, rfl, rfl, rfl⟩)
  | setDumpable allow =>
      simp only [debugStep] at h
      split at h <;> cases h <;> exact .inr (.inr ⟨rfl, rfl, rfl, rfl, rfl, rfl⟩)
  | signal sig => exact .inr (.inr (deliver_frame h).keepsSetup)
  | panicFree => exact .inr (.inr (panicFree_frame h).keepsSetup)
  | tallocAbort => exact .inr (.inr (tallocAbort_frame h).keepsSetup)
  | tallocLog => exact .inr (.inr (tallocLog_frame h).keepsSetup)

/-- 一歩の後に dumpable 属性が 1 なのは、前から 1 だったか、`prctl` が使えて `fr_set_dumpable(true)` を
呼んだときに限る。 -/
theorem debugStep_dumpable {op : DebugOp} (h : (debugStep e s op).2 = some s') :
    s'.fault.kernel.dumpable = 1 ↔
      s.fault.kernel.dumpable = 1 ∨ (e.env.caps.prctlOk (.setDumpable 1) = true ∧ op = .setDumpable true) := by
  cases op with
  | faultSetup cmd program =>
      cases h
      simp [frFaultSetupSys]
  | faultSetLogFn func => cases h; simp
  | faultSetCb func => cases h; simp [frFaultSetCb]
  | faultSetLogFd fd => cases h; simp
  | setDumpableInit =>
      simp only [debugStep] at h
      split at h <;> cases h
      · rename_i d hd
        simp only [frSetDumpableInit] at hd
        split at hd <;> cases hd
        simp [DebugState.withDump, DebugState.dump]
      · simp
  | setDumpable allow =>
      have hk : s'.fault.kernel = (frSetDumpable e.env.caps s.dump allow).2.kernel := by
        simp only [debugStep] at h
        split at h <;> cases h <;> rfl
      rw [hk, frSetDumpable_dumpable]
      cases allow <;> cases e.env.caps.prctlOk (.setDumpable 1) <;> simp [DebugState.dump]
  | signal sig => simpa using (deliver_frame h).dumpable
  | panicFree => simpa using (panicFree_frame h).dumpable
  | tallocAbort => simpa using (tallocAbort_frame h).dumpable
  | tallocLog => simpa using (tallocLog_frame h).dumpable

/-! ## NULL の `fr_fault_log` を呼ぶ一歩 -/

/-- `fr_fault_log` があり `SIGUSR1` でなければ、`fr_fault` は `CAUGHT SIGNAL` を書き、`fr_exit_now(1)` で
プロセスを終える。 -/
theorem runFault_fatal {env : Env} (hl : s.hooks.logFn.isSome) (hs : sig ≠ SIGUSR1) :
    (runFault env s sig).1.head? = some (.fault (.log (.caught sig))) ∧
      SysEvent.fault (.exit 1) ∈ (runFault env s sig).1 ∧ (runFault env s sig).2 = none := by
  obtain ⟨f, hf⟩ := Option.isSome_iff_exists.mp hl
  have hx := @exit_mem_frFault env s.fault sig hs
  simp only [runFault, hf]
  exact ⟨by rw [List.head?_map, frFault_head]; rfl, List.mem_map_of_mem _ hx,
    if_pos (List.any_eq_true.mpr ⟨_, hx, rfl⟩)⟩

/-- `fr_fault_log` があれば、`_fr_fault_mem_report` は `CAUGHT SIGNAL` を書いて `fr_log_talloc_report(NULL)` の
入出力をし、失敗すれば `fr_perror("memreport")` を書く。プロセスは続く。 -/
theorem memReport_eq {renv : ReportEnv} (hl : s.hooks.logFn.isSome) :
    (memReport renv s sig).1 = .memCaught sig ::
      (match renv.dup s.hooks.logFd with
        | .error _ => [.perror "memreport"]
        | .ok fd =>
            match renv.fdopen fd with
            | some _ => [.report (.dup fd), .report (.close fd), .perror "memreport"]
            | none => [.report (.dup fd), .report .header, .report (.full none), .report (.fclose fd)]) ∧
      (memReport renv s sig).2.isSome := by
  obtain ⟨f, hf⟩ := Option.isSome_iff_exists.mp hl
  simp only [memReport, hf]
  rcases hd : renv.dup s.hooks.logFd with e | fd
  · simp [frLogTallocReport, hd]
  · cases ho : renv.fdopen fd
    · simp [frLogTallocReport_of_open hd ho, ho]
    · simp [frLogTallocReport, hd, ho]

end Frame

end FreeRadiusDebug

