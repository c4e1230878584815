import Mathlib.Data.List.Basic

/-!
# デバッガの有無を調べる `fr_debug_break`

`fr_debugger_present` と `SIGTRAP` の処理を状態にして、`fr_debug_break` と `_sigtrap_handler` を書く。
`raise(SIGTRAP)` の行き先は環境が決める：デバッガがあれば、デバッガが受け取り処理は走らない。なければ、
登録した処理が走るか、既定の処理でプロセスが終わる。

`fr_debugger_present` に 1 を入れる道はないので、どの呼び出しの列でも 1 にならない（`ProbeInv`）。そのため、
デバッガの下でも `SIGTRAP` を上げるのは初めの一回だけである。
-/

namespace FreeRadiusDebug

/-- `SIGTRAP` の処理。 -/
inductive Disposition where
  | dfl
  | sigtrapHandler
  deriving DecidableEq

/-- `static int fr_debugger_present` と `SIGTRAP` の処理。 -/
structure ProbeState where
  frDebuggerPresent : Int
  sigtrap : Disposition
  deriving DecidableEq

/-- プロセスの始まり：`fr_debugger_present = -1`、`SIGTRAP` は既定の処理。 -/
def ProbeState.init : ProbeState := ⟨-1, .dfl⟩

/-- 調べる間に起きる事。 -/
inductive ProbeEvent where
  /-- `raise(SIGTRAP)`。そのときの処理を持つ。 -/
  | raise (d : Disposition)
  /-- 既定の処理でプロセスが終わる。 -/
  | killed
  deriving DecidableEq

/-- `_sigtrap_handler`。 -/
def sigtrapHandler (s : ProbeState) : ProbeState :=
  { s with frDebuggerPresent := 0, sigtrap := .dfl }

/-- `raise(SIGTRAP)`。`debugger` ならデバッガが受け取り、処理は走らない。 -/
def raiseSigtrap (debugger : Bool) (s : ProbeState) : List ProbeEvent × ProbeState :=
  if debugger then ([.raise s.sigtrap], s)
  else
    match s.sigtrap with
    | .sigtrapHandler => ([.raise .sigtrapHandler], sigtrapHandler s)
    | .dfl => ([.raise .dfl, .killed], s)

/-- `fr_debug_break`。 -/
def frDebugBreak (debugger : Bool) (s : ProbeState) : List ProbeEvent × ProbeState :=
  if s.frDebuggerPresent = -1 then
    raiseSigtrap debugger { s with frDebuggerPresent := 0, sigtrap := .sigtrapHandler }
  else if s.frDebuggerPresent = 1 then raiseSigtrap debugger s
  else ([], s)

/-- `fr_debug_break` を `n` 回呼ぶ。プロセスが終われば、その後の呼び出しはない。 -/
def runDebugBreak (debugger : Bool) : Nat → ProbeState → List ProbeEvent × ProbeState
  | 0, s => ([], s)
  | n + 1, s =>
      let r := frDebugBreak debugger s
      if ProbeEvent.killed ∈ r.1 then r
      else
        let r' := runDebugBreak debugger n r.2
        (r.1 ++ r'.1, r'.2)

/-! ## 一回の呼び出し -/

@[simp] theorem frDebugBreak_of_zero {debugger : Bool} {s : ProbeState} (h : s.frDebuggerPresent = 0) :
    frDebugBreak debugger s = ([], s) := by
  simp [frDebugBreak, h]

/-- 初めの呼び出しは、処理を登録して `SIGTRAP` を一回上げ、`fr_debugger_present` を 0 にする。デバッガの下では
登録した処理が残る。 -/
theorem frDebugBreak_init (debugger : Bool) :
    frDebugBreak debugger ProbeState.init =
      ([.raise .sigtrapHandler], ⟨0, if debugger then .sigtrapHandler else .dfl⟩) := by
  cases debugger <;> rfl

/-- `fr_debugger_present` は 0 か、`SIGTRAP` を既定の処理にしたままの -1 である。1 は現れない。 -/
def ProbeInv (s : ProbeState) : Prop :=
  s.frDebuggerPresent = 0 ∨ (s.frDebuggerPresent = -1 ∧ s.sigtrap = .dfl)

theorem ProbeInv.init : ProbeInv ProbeState.init := .inr ⟨rfl, rfl⟩

theorem ProbeInv.frDebugBreak {s : ProbeState} (h : ProbeInv s) (debugger : Bool) :
    ProbeInv (FreeRadiusDebug.frDebugBreak debugger s).2 := by
  rcases h with h0 | ⟨h1, hd⟩
  · rw [frDebugBreak_of_zero h0]; exact .inl h0
  · obtain ⟨p, d⟩ := s
    obtain rfl : p = -1 := h1
    obtain rfl : d = .dfl := hd
    rw [show (⟨-1, .dfl⟩ : ProbeState) = ProbeState.init from rfl, frDebugBreak_init]
    exact .inl rfl

/-! ## 呼び出しの列 -/

/-- どの環境でも、どの回数の後でも `ProbeInv` が成り立つ。 -/
theorem ProbeInv.run (debugger : Bool) :
    ∀ (n : Nat) {s : ProbeState}, ProbeInv s → ProbeInv (runDebugBreak debugger n s).2
  | 0, _, h => h
  | n + 1, s, h => by
      have h1 := h.frDebugBreak debugger
      simp only [runDebugBreak]
      split
      · exact h1
      · exact ProbeInv.run debugger n h1

theorem runDebugBreak_of_zero (debugger : Bool) :
    ∀ (n : Nat) {s : ProbeState}, s.frDebuggerPresent = 0 → runDebugBreak debugger n s = ([], s)
  | 0, _, _ => rfl
  | n + 1, s, h => by
      simp only [runDebugBreak, frDebugBreak_of_zero h, List.not_mem_nil, if_false,
        runDebugBreak_of_zero debugger n h, List.append_nil]

/-! ## 定理 -/

/-- プロセスの始まりから `fr_debug_break` を `n ≥ 1` 回呼ぶと、デバッガの有無によらず、`SIGTRAP` を上げるのは
初めの一回だけで、そのとき処理は `_sigtrap_handler` である。デバッガの下でも二回目からは上げない。 -/
theorem frDebugBreak_raises_once (debugger : Bool) (n : Nat) (hn : 1 ≤ n) :
    (runDebugBreak debugger n ProbeState.init).1 = [.raise .sigtrapHandler] := by
  obtain ⟨m, rfl⟩ := Nat.exists_eq_add_of_le' hn
  simp only [runDebugBreak, frDebugBreak_init]
  rw [if_neg (by simp), runDebugBreak_of_zero debugger m rfl]
  rfl

theorem frDebugBreak_raises_once_twice :
    1 ≤ 2 ∧ (runDebugBreak true 2 ProbeState.init).1 = [.raise .sigtrapHandler] :=
  ⟨by decide, frDebugBreak_raises_once true 2 (by decide)⟩

/-- どの環境でも、何回呼んだ後でも、`fr_debugger_present` は 1 にならない。 -/
theorem frDebuggerPresent_ne_one (debugger : Bool) (n : Nat) :
    (runDebugBreak debugger n ProbeState.init).2.frDebuggerPresent ≠ 1 := by
  rcases ProbeInv.run debugger n ProbeInv.init with h | ⟨h, -⟩ <;> rw [h] <;> decide

end FreeRadiusDebug
