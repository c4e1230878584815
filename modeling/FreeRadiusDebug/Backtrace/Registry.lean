import Mathlib.Data.List.Basic

/-!
# バックトレースの記録（一つのスレッド）

`fr_backtrace_attach`、対象を壊したときに走る `_fr_do_bt`、`backtrace_print` を、一つの入れ物 `h` の上の
関数として書く。番地は `Nat` で、0 が NULL である。`fr_cbuff_t` の実装（src/lib/cbuff.c）は src/ にないので、
仕様の言う容量のある FIFO として写す。

`_fr_do_bt` は記録の `obj` に何も書かず（`talloc_zero` の 0 のまま）、`backtrace_print` は記録の番地 `p` そのものを
`obj` と比べる。記録は対象を壊す途中で取るので、その番地は対象の番地と違う。そのため `backtrace_print(h, o)` は、
`o` を壊したときに取った記録をけっして表示しない。
-/

namespace FreeRadiusDebug

/-- `MAX_BT_CBUFF`。 -/
def MAX_BT_CBUFF : Nat := 65536

/-- `fr_bt_info_t`。 -/
structure BtInfo where
  /-- 記録そのものの番地（`backtrace_print` の `p`）。 -/
  addr : Nat
  /-- `bt->obj`。 -/
  obj : Nat
  /-- `backtrace` が取った呼び出しの列。 -/
  frames : List Nat
  deriving DecidableEq

/-- `fr_bt_marker_t`。 -/
structure Marker where
  obj : Nat
  cbuff : Option Nat
  deriving DecidableEq

/-! ## 緩衝 -/

/-- `fr_cbuff_rp_insert`（src/lib/cbuff.c にあり、src/ にはない）を容量のある FIFO として写す：容量に達して
いれば、いちばん古い記録を捨ててから後ろに足す。 -/
def cbuffRpInsert (buf : List BtInfo) (b : BtInfo) : List BtInfo :=
  if buf.length < MAX_BT_CBUFF then buf ++ [b] else buf.tail ++ [b]

/-! ## `debug.c` の関数 -/

/-- 一つの入れ物 `h` と、その緩衝と、生きている印。 -/
structure Registry where
  /-- `*cbuff`：NULL か、`fr_cbuff_alloc` が返した緩衝。 -/
  h : Option Nat
  /-- 緩衝の中身。古い順。 -/
  buf : List BtInfo
  /-- 対象に付けた印。 -/
  markers : List Marker

/-- 何も付けていない入れ物。 -/
def Registry.init : Registry := ⟨none, [], []⟩

/-- `fr_backtrace_attach(&h, o)`。`alloc` は、呼んだときの `fr_cbuff_alloc` の結果。 -/
def frBacktraceAttach (r : Registry) (o : Nat) (alloc : Option Nat) : Marker × Registry :=
  let h := if r.h = none then alloc else r.h
  let m : Marker := ⟨o, h⟩
  (m, { r with h := h, markers := m :: r.markers })

/-- `_fr_do_bt(marker)`。`bt` は `talloc_zero` が返した番地（`none` は NULL）、`frames` は `backtrace` の結果。 -/
def frDoBt (r : Registry) (m : Marker) (bt : Option Nat) (frames : List Nat) : Int × Registry :=
  if m.obj = 0 ∨ m.cbuff = none then (-1, r)
  else
    match bt with
    | none => (-1, r)
    | some a => (0, { r with buf := cbuffRpInsert r.buf ⟨a, 0, frames⟩ })

/-- `backtrace_print` の表示する行。 -/
inductive PrintLine where
  /-- `Stacktrace for: %p` と、その記録の呼び出しの列。 -/
  | stacktrace (p : Nat) (frames : List Nat)
  /-- `No backtrace available for %p`。 -/
  | noBacktrace (obj : Nat)
  deriving DecidableEq

/-- `backtrace_print` のループ：`fr_cbuff_rp_next` で記録を古い順に取り出し、`p == obj || !obj` なら表示する。
`obj` があれば一つ表示して戻る。表示した行、残りの緩衝、`found` を返す。取り出した記録が緩衝から除かれるのは
`fr_cbuff_rp_next`（src/lib/cbuff.c にあり、src/ にはない）のふるまいで、容量のある FIFO の読み出しとして写す。 -/
def printLoop (obj : Nat) : List BtInfo → Bool → List PrintLine × List BtInfo × Bool
  | [], found => ([], [], found)
  | p :: rest, found =>
      if p.addr = obj ∨ obj = 0 then
        if obj ≠ 0 then ([.stacktrace p.addr p.frames], rest, true)
        else
          let r := printLoop obj rest true
          (.stacktrace p.addr p.frames :: r.1, r.2.1, r.2.2)
      else printLoop obj rest found

/-- `backtrace_print(cbuff, obj)`。 -/
def backtracePrint (obj : Nat) (buf : List BtInfo) : List PrintLine × List BtInfo :=
  let r := printLoop obj buf false
  (if r.2.2 then r.1 else r.1 ++ [.noBacktrace obj], r.2.1)

/-- 入れ物の上の操作。 -/
inductive RegOp where
  /-- `fr_backtrace_attach(&h, o)`。 -/
  | attach (o : Nat) (alloc : Option Nat)
  /-- 対象 `o` を壊す。その印の `_fr_do_bt` が走る。 -/
  | destroy (o : Nat) (bt : Option Nat) (frames : List Nat)
  /-- `backtrace_print(h, x)`。 -/
  | print (x : Nat)

/-- 操作を一つ行い、表示した行を返す。対象ごとに印は一つとし、壊した対象の印を除く。`h` が NULL の間は緩衝は
空である。 -/
def regStep (r : Registry) : RegOp → List PrintLine × Registry
  | .attach o alloc => ([], (frBacktraceAttach r o alloc).2)
  | .destroy o bt frames =>
      match r.markers.find? (·.obj = o) with
      | none => ([], r)
      | some m => ([], (frDoBt { r with markers := r.markers.erase m } m bt frames).2)
  | .print x =>
      let p := backtracePrint x r.buf
      (p.1, { r with buf := p.2 })

/-- 操作の列を順に行う。 -/
def regRun (r : Registry) (ops : List RegOp) : Registry :=
  ops.foldl (fun r op => (regStep r op).2) r

/-! ## `backtrace_print` の表示 -/

theorem printLoop_addr {obj : Nat} (hobj : obj ≠ 0) (buf : List BtInfo) (found : Bool) :
    ∀ l ∈ (printLoop obj buf found).1, ∃ b ∈ buf, b.addr = obj ∧ l = .stacktrace b.addr b.frames := by
  induction buf generalizing found with
  | nil => simp [printLoop]
  | cons p rest ih =>
      rw [printLoop]
      by_cases hp : p.addr = obj
      · simp only [hp, true_or, if_true, hobj, ne_eq, not_false_eq_true, List.mem_singleton]
        rintro l rfl
        exact ⟨p, List.mem_cons_self _ _, hp, by rw [hp]⟩
      · simp only [hp, hobj, or_self, if_false]
        intro l hl
        obtain ⟨b, hb, hba, rfl⟩ := ih found l hl
        exact ⟨b, List.mem_cons_of_mem _ hb, hba, rfl⟩

theorem backtracePrint_addr {obj : Nat} (hobj : obj ≠ 0) (buf : List BtInfo) :
    ∀ l ∈ (backtracePrint obj buf).1,
      l = .noBacktrace obj ∨ ∃ b ∈ buf, b.addr = obj ∧ l = .stacktrace b.addr b.frames := by
  intro l hl
  simp only [backtracePrint] at hl
  split at hl
  · exact .inr (printLoop_addr hobj buf false l hl)
  · rcases List.mem_append.mp hl with hl | hl
    · exact .inr (printLoop_addr hobj buf false l hl)
    · exact .inl (List.mem_singleton.mp hl)

theorem printLoop_null (buf : List BtInfo) (found : Bool) :
    printLoop 0 buf found = (buf.map fun b => .stacktrace b.addr b.frames, [], found || !buf.isEmpty) := by
  induction buf generalizing found with
  | nil => simp [printLoop]
  | cons p rest ih => simp [printLoop, ih]

theorem printLoop_skip {obj : Nat} (hobj : obj ≠ 0) {pre : List BtInfo} (hpre : ∀ c ∈ pre, c.addr ≠ obj)
    (buf : List BtInfo) (found : Bool) : printLoop obj (pre ++ buf) found = printLoop obj buf found := by
  induction pre with
  | nil => rfl
  | cons p pre ih =>
      rw [List.cons_append, printLoop, if_neg (by simp [hpre p (List.mem_cons_self _ _), hobj])]
      exact ih fun c hc => hpre c (List.mem_cons_of_mem _ hc)

/-- `backtrace_print(h, NULL)` は、緩衝の記録をどれも一度ずつ古い順に表示し、緩衝を空にする。記録がなければ
"No backtrace available" を書く。 -/
theorem backtracePrint_null (buf : List BtInfo) :
    backtracePrint 0 buf =
      (buf.map (fun b => .stacktrace b.addr b.frames) ++ (if buf = [] then [.noBacktrace 0] else []), []) := by
  cases buf <;> simp [backtracePrint, printLoop_null]

/-- `backtrace_print(h, x)`（`x` は NULL でない）は、番地が `x` のいちばん古い記録だけを表示し、それとそれより
古い記録を緩衝から除く。番地が `x` の記録がなければ "No backtrace available" を書き、緩衝を空にする。 -/
theorem backtracePrint_first {x : Nat} (hx : x ≠ 0) :
    (∀ (pre post : List BtInfo) (b : BtInfo), (∀ c ∈ pre, c.addr ≠ x) → b.addr = x →
      backtracePrint x (pre ++ b :: post) = ([.stacktrace x b.frames], post)) ∧
    ∀ buf : List BtInfo, (∀ c ∈ buf, c.addr ≠ x) → backtracePrint x buf = ([.noBacktrace x], []) := by
  refine ⟨fun pre post b hpre hb => ?_, fun buf h => ?_⟩
  · simp [backtracePrint, printLoop_skip hx hpre, printLoop, hb, hx]
  · have := printLoop_skip hx h [] false
    simp only [List.append_nil] at this
    simp [backtracePrint, this, printLoop]

theorem backtracePrint_first_seven :
    (7 : Nat) ≠ 0 ∧
    ((∀ (pre post : List BtInfo) (b : BtInfo), (∀ c ∈ pre, c.addr ≠ 7) → b.addr = 7 →
      backtracePrint 7 (pre ++ b :: post) = ([.stacktrace 7 b.frames], post)) ∧
    ∀ buf : List BtInfo, (∀ c ∈ buf, c.addr ≠ 7) → backtracePrint 7 buf = ([.noBacktrace 7], [])) :=
  ⟨by decide, backtracePrint_first (by decide)⟩

/-! ## 壊した対象の記録 -/

theorem mem_cbuffRpInsert (buf : List BtInfo) (b : BtInfo) : b ∈ cbuffRpInsert buf b := by
  unfold cbuffRpInsert; split <;> simp

/-- 印を付けた対象 `o` を壊すと、`_fr_do_bt` は番地 `a` の記録を緩衝に入れる。だが記録は `o` を壊す途中で取るので
`a ≠ o` であり、その後のどの操作の列の後でも、`backtrace_print(h, o)` はその記録を表示しない。 -/
theorem backtracePrint_misses_destroyed (r : Registry) {o a : Nat} (frames : List Nat) (ho : o ≠ 0) (ha : a ≠ o)
    (hm : ∃ b, r.markers.find? (·.obj = o) = some ⟨o, some b⟩) (ops : List RegOp) :
    ⟨a, 0, frames⟩ ∈ (regStep r (.destroy o (some a) frames)).2.buf ∧
      PrintLine.stacktrace a frames ∉
        (regStep (regRun (regStep r (.destroy o (some a) frames)).2 ops) (.print o)).1 := by
  obtain ⟨b, hb⟩ := hm
  refine ⟨?_, fun hmem => ?_⟩
  · simp only [regStep, hb, frDoBt, ho, reduceCtorEq, or_self, if_false]
    exact mem_cbuffRpInsert _ _
  · rcases backtracePrint_addr ho _ _ hmem with h | ⟨b, -, hb, h⟩
    · cases h
    · injection h with h1
      exact ha (h1 ▸ hb)

theorem backtracePrint_misses_destroyed_seven :
    let r := (regStep Registry.init (.attach 7 (some 1))).2
    (regStep (regRun r [.destroy 7 (some 100) [1]]) (.print 7)).1 = [.noBacktrace 7] ∧
    (⟨100, 0, [1]⟩ ∈ (regStep r (.destroy 7 (some 100) [1])).2.buf ∧
      PrintLine.stacktrace 100 [1] ∉ (regStep (regRun (regStep r (.destroy 7 (some 100) [1])).2 []) (.print 7)).1) :=
  ⟨by decide, backtracePrint_misses_destroyed (regStep Registry.init (.attach 7 (some 1))).2 (o := 7) (a := 100)
    [1] (by decide) (by decide) ⟨1, rfl⟩ []⟩

end FreeRadiusDebug
