import FreeRadiusDebug.CLib

/-!
# コアダンプと ptrace の方針

`fr_set_dumpable_flag`、`fr_get_dumpable_flag`、`fr_set_dumpable_init`、`fr_set_dumpable` を、カーネルの
状態（dumpable 属性と `RLIMIT_CORE`）の上の関数として書く。`prctl` のある Linux の版を写す。`setrlimit` は
POSIX のとおり、`cur ≤ max` を求め、硬い上限を上げるには `CAP_SYS_RESOURCE` を求める。
-/

namespace FreeRadiusDebug

/-- `struct rlimit`。 -/
structure RLimit where
  cur : Nat
  max : Nat
  deriving DecidableEq, Repr

/-- プロセスについてカーネルが持つ値：dumpable 属性（`PR_GET_DUMPABLE` が返す値）と `RLIMIT_CORE`。 -/
structure Kernel where
  dumpable : Nat
  core : RLimit

/-- `prctl` の要求。 -/
inductive Prctl where
  /-- `PR_GET_DUMPABLE`。 -/
  | getDumpable
  /-- `PR_SET_DUMPABLE` と、その値。 -/
  | setDumpable (v : Nat)

/-- カーネルの呼び出しの成否を決めるもの。`syserror` は失敗したときの `fr_syserror(errno)`。 -/
structure Caps where
  sysResource : Bool
  /-- `prctl` の要求ごとの成否。カーネルは同じ要求には同じ答えを返すが、要求ごとに答えは別である：属性を 1 に
  できても 0 に戻せないことがある。 -/
  prctlOk : Prctl → Bool
  getrlimitOk : Bool
  syserror : String

/-! ## カーネルの呼び出し -/

/-- `prctl(PR_SET_DUMPABLE, v)`。失敗すれば何も変えない。 -/
def prctlSetDumpable (caps : Caps) (k : Kernel) (v : Nat) : Option Kernel :=
  if caps.prctlOk (.setDumpable v) then some { k with dumpable := v } else none

/-- `prctl(PR_GET_DUMPABLE)`。 -/
def prctlGetDumpable (caps : Caps) (k : Kernel) : Int :=
  if caps.prctlOk .getDumpable then k.dumpable else -1

/-- `getrlimit(RLIMIT_CORE, ...)`。 -/
def getrlimit (caps : Caps) (k : Kernel) : Option RLimit :=
  if caps.getrlimitOk then some k.core else none

/-- `setrlimit(RLIMIT_CORE, &l)`：`cur ≤ max` で、硬い上限を上げないか、`CAP_SYS_RESOURCE` を持つときに限る。 -/
def setrlimit (caps : Caps) (k : Kernel) (l : RLimit) : Option Kernel :=
  if l.cur ≤ l.max ∧ (l.max ≤ k.core.max ∨ caps.sysResource = true) then some { k with core := l } else none

/-! ## `debug.c` の関数 -/

/-- `fr_set_dumpable_flag`。 -/
def frSetDumpableFlag (caps : Caps) (k : Kernel) (dumpable : Bool) : Except String Kernel :=
  match prctlSetDumpable caps k (if dumpable then 1 else 0) with
  | none => .error ("Cannot re-enable core dumps: prctl(PR_SET_DUMPABLE) failed: " ++ caps.syserror)
  | some k' => .ok k'

/-- `fr_get_dumpable_flag`：戻り値と、`fr_strerror` に残す文字列。失敗なら -1、`prctl` が 1 を返せば 1、それ以外
（Linux の 2 も）は 0。 -/
def frGetDumpableFlag (caps : Caps) (k : Kernel) : Int × Option String :=
  let ret := prctlGetDumpable caps k
  if ret < 0 then (-1, some ("Cannot get dumpable flag: " ++ caps.syserror))
  else if ret ≠ 1 then (0, none) else (1, none)

/-- `fr_set_dumpable_init` と `fr_set_dumpable` が読み書きする状態：カーネルと、保存した `core_limits`。 -/
structure DumpState where
  kernel : Kernel
  coreLimits : RLimit

/-- `fr_set_dumpable_init`：今の `RLIMIT_CORE` を `core_limits` に保存する。 -/
def frSetDumpableInit (caps : Caps) (s : DumpState) : Except String DumpState :=
  match getrlimit caps s.kernel with
  | none => .error ("Failed to get current core limit:  " ++ caps.syserror)
  | some l => .ok { s with coreLimits := l }

/-- `fr_set_dumpable`：止めるときは `RLIMIT_CORE` を `{0, 0}` に、許すときは dumpable 属性を 1 にしてから
`core_limits` に戻す。失敗しても、それまでの変更は残る。 -/
def frSetDumpable (caps : Caps) (s : DumpState) (allowCoreDumps : Bool) :
    Except String Unit × DumpState :=
  if !allowCoreDumps then
    match setrlimit caps s.kernel ⟨0, 0⟩ with
    | none => (.error ("Failed disabling core dumps: " ++ caps.syserror), s)
    | some k => (.ok (), { s with kernel := k })
  else
    match frSetDumpableFlag caps s.kernel true with
    | .error e => (.error e, s)
    | .ok k =>
        match setrlimit caps k s.coreLimits with
        | none => (.error ("Cannot update core dump limit: " ++ caps.syserror), { s with kernel := k })
        | some k' => (.ok (), { s with kernel := k' })

/-- `fr_set_dumpable` を順に呼んだ後の状態。 -/
def runSetDumpable (caps : Caps) (s : DumpState) (calls : List Bool) : DumpState :=
  calls.foldl (fun s b => (frSetDumpable caps s b).2) s

/-! ## 一回の呼び出し -/

section Step

variable {caps : Caps} {s : DumpState}

theorem frSetDumpable_false :
    frSetDumpable caps s false = (.ok (), { s with kernel := { s.kernel with core := ⟨0, 0⟩ } }) := by
  simp [frSetDumpable, setrlimit]

/-- `prctl` が成功するとき、許す呼び出しは dumpable 属性を 1 にし、`core_limits` に戻せるときだけ戻す。 -/
theorem frSetDumpable_true (hp : caps.prctlOk (.setDumpable 1) = true) (hb : s.coreLimits.cur ≤ s.coreLimits.max) :
    frSetDumpable caps s true =
      if s.coreLimits.max ≤ s.kernel.core.max ∨ caps.sysResource = true then
        (.ok (), { s with kernel := { dumpable := 1, core := s.coreLimits } })
      else
        (.error ("Cannot update core dump limit: " ++ caps.syserror),
          { s with kernel := { s.kernel with dumpable := 1 } }) := by
  by_cases h : s.coreLimits.max ≤ s.kernel.core.max ∨ caps.sysResource = true <;>
    simp [frSetDumpable, frSetDumpableFlag, prctlSetDumpable, setrlimit, hp, hb, h]

@[simp] theorem runSetDumpable_nil : runSetDumpable caps s [] = s := rfl

theorem runSetDumpable_append (calls : List Bool) (b : Bool) :
    runSetDumpable caps s (calls ++ [b]) = (frSetDumpable caps (runSetDumpable caps s calls) b).2 := by
  simp [runSetDumpable, List.foldl_append]

theorem frSetDumpableInit_ok (hg : caps.getrlimitOk = true) :
    frSetDumpableInit caps s = .ok { s with coreLimits := s.kernel.core } := by
  simp [frSetDumpableInit, getrlimit, hg]

end Step

/-! ## 呼び出しの列 -/

/-- 呼び出しの列 `calls` の後の `RLIMIT_CORE`：保存した `b` か `{0, 0}` で、止める呼び出しがなければ `b`、
特権がなく `b.max > 0` なら、止める呼び出しの後はずっと `{0, 0}`。 -/
structure CoreInv (caps : Caps) (b : RLimit) (calls : List Bool) (s : DumpState) : Prop where
  saved : s.coreLimits = b
  two : s.kernel.core = b ∨ s.kernel.core = ⟨0, 0⟩
  untouched : false ∉ calls → s.kernel.core = b
  stuck : caps.sysResource = false → 0 < b.max → false ∈ calls → s.kernel.core = ⟨0, 0⟩

section Run

variable {caps : Caps} {b : RLimit}

theorem CoreInv.step (hp : caps.prctlOk (.setDumpable 1) = true) (hb : b.cur ≤ b.max) {calls : List Bool} {s : DumpState}
    (h : CoreInv caps b calls s) (x : Bool) :
    CoreInv caps b (calls ++ [x]) (frSetDumpable caps s x).2 := by
  cases x with
  | false =>
      rw [frSetDumpable_false]
      exact ⟨h.saved, .inr rfl, fun hf => absurd (by simp) hf, fun _ _ _ => rfl⟩
  | true =>
      rw [frSetDumpable_true hp (h.saved ▸ hb), h.saved]
      split
      · rename_i hle
        refine ⟨rfl, .inl rfl, fun _ => rfl, fun hr hpos hf => ?_⟩
        have h0 := h.stuck hr hpos (by simpa using hf)
        rw [h0] at hle; simp [hr] at hle; omega
      · exact ⟨rfl, h.two, fun hf => h.untouched (by simpa using hf),
          fun hr hpos hf => h.stuck hr hpos (by simpa using hf)⟩

/-- どの呼び出しの列の後でも `CoreInv` が成り立つ。 -/
theorem CoreInv.run (hp : caps.prctlOk (.setDumpable 1) = true) (hb : b.cur ≤ b.max) {s : DumpState}
    (h : CoreInv caps b [] s) (calls : List Bool) : CoreInv caps b calls (runSetDumpable caps s calls) := by
  induction calls using List.reverseRecOn with
  | nil => exact h
  | append_singleton calls x ih => rw [runSetDumpable_append]; exact ih.step hp hb x

/-- `fr_set_dumpable_init` で上限 `b` を保存した後、どの `fr_set_dumpable` の列の後でも、`fr_set_dumpable(true)`
が成功して `RLIMIT_CORE` を `b` に戻すのは、`CAP_SYS_RESOURCE` を持つか、`b` の硬い上限が 0 か、止める呼び出しが
なかったときである。そうでなければ失敗して `{0, 0}` のまま残る。 -/
theorem frSetDumpable_true_after_calls (hp : caps.prctlOk (.setDumpable 1) = true) (hg : caps.getrlimitOk = true)
    {s s0 : DumpState} (hb : s.kernel.core.cur ≤ s.kernel.core.max) (hinit : frSetDumpableInit caps s = .ok s0)
    (calls : List Bool) :
    let r := frSetDumpable caps (runSetDumpable caps s0 calls) true
    if caps.sysResource = true ∨ s.kernel.core.max = 0 ∨ false ∉ calls then
      r.1 = .ok () ∧ r.2.kernel.core = s.kernel.core
    else
      r.1 = .error ("Cannot update core dump limit: " ++ caps.syserror) ∧ r.2.kernel.core = ⟨0, 0⟩ := by
  rw [frSetDumpableInit_ok hg, Except.ok.injEq] at hinit
  subst hinit
  have h : CoreInv caps s.kernel.core calls
      (runSetDumpable caps { s with coreLimits := s.kernel.core } calls) :=
    CoreInv.run (s := { s with coreLimits := s.kernel.core }) hp hb
      ⟨rfl, .inl rfl, fun _ => rfl, fun _ _ h => absurd h (by simp)⟩ calls
  dsimp only
  rw [frSetDumpable_true hp (by rw [h.saved]; exact hb), h.saved]
  split
  · rename_i hcase
    rw [if_pos]
    · exact ⟨rfl, rfl⟩
    · rcases hcase with hr | h0 | hf
      · exact .inr hr
      · exact .inl (by omega)
      · exact .inl (by rw [h.untouched hf])
  · rename_i hcase
    simp only [not_or, Bool.not_eq_true, not_not] at hcase
    obtain ⟨hr, h0, hf⟩ := hcase
    have hz := h.stuck hr (by omega) hf
    rw [if_neg (by simp [hz, hr]; omega)]
    exact ⟨rfl, hz⟩

theorem frSetDumpable_true_after_calls_root :
    let caps : Caps := ⟨true, fun _ => true, true, ""⟩
    let s : DumpState := ⟨⟨0, ⟨0, SIZE_MAX⟩⟩, ⟨0, 0⟩⟩
    caps.prctlOk (.setDumpable 1) = true ∧ caps.getrlimitOk = true ∧ s.kernel.core.cur ≤ s.kernel.core.max ∧
      frSetDumpableInit caps s = .ok ⟨s.kernel, s.kernel.core⟩ ∧
      (frSetDumpable caps (runSetDumpable caps ⟨s.kernel, s.kernel.core⟩ [false]) true).1 = .ok () :=
  ⟨rfl, rfl, Nat.zero_le _, rfl,
    (@frSetDumpable_true_after_calls ⟨true, fun _ => true, true, ""⟩ rfl rfl ⟨⟨0, ⟨0, SIZE_MAX⟩⟩, ⟨0, 0⟩⟩ _
      (Nat.zero_le _) rfl [false]).1⟩

/-- 特権のないプロセスでは、止めてから許しても、保存した上限に戻らない。 -/
theorem frSetDumpable_unprivileged_no_restore :
    let caps : Caps := ⟨false, fun _ => true, true, "Operation not permitted"⟩
    let k : Kernel := ⟨0, ⟨0, SIZE_MAX⟩⟩
    let r := frSetDumpable caps (runSetDumpable caps ⟨k, k.core⟩ [false]) true
    frSetDumpableInit caps ⟨k, ⟨0, 0⟩⟩ = .ok ⟨k, k.core⟩ ∧
      r.1 = .error "Cannot update core dump limit: Operation not permitted" ∧ r.2.kernel.core = ⟨0, 0⟩ :=
  ⟨rfl, rfl, rfl⟩

end Run

end FreeRadiusDebug
