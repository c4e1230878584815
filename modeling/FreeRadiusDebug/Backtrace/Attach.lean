import FreeRadiusDebug.Backtrace.Registry
import Mathlib.Logic.Relation

/-!
# `fr_backtrace_attach` の二重の確認（多くのスレッド）

同じ入れ物 `h` に何本ものスレッドが `fr_backtrace_attach(&h, o_i)` を呼ぶ。各スレッドの一歩は、ロックの外の確認、
`fr_debug_init` のロック、ロックの中の確認、`fr_cbuff_alloc` の結果の書き込み、ロックを外す、印に `*cbuff` を
写す、のどれかである。メモリは逐次一貫とし、ロックは相互排除を与える。どのスレッドをどの順に進めてもよい。

`h` に書いた NULL でない緩衝の列（幽霊の変数 `stored`）はいつも `h.toList` に等しい（`AttachInv`）。そのため
NULL でない緩衝は高々一つしか書かれず、一度 NULL でなくなった `h` は変わらず、NULL でない印はその緩衝を指す。
一本のスレッドを続けて進めれば、`Registry.lean` の `frBacktraceAttach` と同じ結果になる。
-/

namespace FreeRadiusDebug

/-- スレッドの次の一歩。 -/
inductive AttachPc where
  /-- `if (*cbuff == NULL)`（ロックの外）。 -/
  | outer
  /-- `PTHREAD_MUTEX_LOCK(&fr_debug_init)`。 -/
  | lock
  /-- `if (*cbuff == NULL)`（ロックの中）。 -/
  | inner
  /-- `*cbuff = fr_cbuff_alloc(ctx, MAX_BT_CBUFF, true)`。 -/
  | alloc
  /-- `PTHREAD_MUTEX_UNLOCK(&fr_debug_init)`。 -/
  | unlock
  /-- `marker->cbuff = *cbuff`。 -/
  | marker
  /-- 戻った。 -/
  | done
  deriving DecidableEq

/-- 共有の状態と各スレッドの位置。 -/
structure AttachSys where
  /-- `*cbuff`。 -/
  h : Option Nat
  /-- `fr_debug_init` を持つスレッド。 -/
  mutex : Option Nat
  /-- スレッドごとの次の一歩。 -/
  pc : Nat → AttachPc
  /-- 幽霊の変数：`h` に書いた NULL でない緩衝の列。 -/
  stored : List Nat
  /-- 作った印の `cbuff`。 -/
  markers : List (Option Nat)

/-- 始まり：`h` は NULL で、どのスレッドもこれから呼ぶ。 -/
def AttachSys.init : AttachSys := ⟨none, none, fun _ => .outer, [], []⟩

/-- スレッド `t` を一歩進める。`alloc` はそのときの `fr_cbuff_alloc` の結果。ロックを待つスレッドは進めない。 -/
def attachStep (s : AttachSys) (t : Nat) (alloc : Option Nat) : Option AttachSys :=
  match s.pc t with
  | .outer => some { s with pc := Function.update s.pc t (if s.h = none then .lock else .marker) }
  | .lock =>
      if s.mutex = none then some { s with mutex := some t, pc := Function.update s.pc t .inner } else none
  | .inner => some { s with pc := Function.update s.pc t (if s.h = none then .alloc else .unlock) }
  | .alloc =>
      some { s with h := alloc, stored := s.stored ++ alloc.toList, pc := Function.update s.pc t .unlock }
  | .unlock => some { s with mutex := none, pc := Function.update s.pc t .marker }
  | .marker => some { s with markers := s.markers ++ [s.h], pc := Function.update s.pc t .done }
  | .done => none

/-- 始まりからたどれる状態。 -/
inductive AttachReach : AttachSys → Prop where
  | init : AttachReach AttachSys.init
  | step {s s' : AttachSys} {t : Nat} {alloc : Option Nat} :
      AttachReach s → attachStep s t alloc = some s' → AttachReach s'

/-- ロックの中にいるスレッド。 -/
def AttachPc.Critical : AttachPc → Prop
  | .inner | .alloc | .unlock => True
  | _ => False

/-- 二重の確認の不変条件。 -/
structure AttachInv (s : AttachSys) : Prop where
  /-- `h` に書いた NULL でない緩衝は、今の `h` だけである。 -/
  stored : s.stored = s.h.toList
  /-- ロックの中にいるのは、ロックを持つスレッドだけである。 -/
  owner : ∀ t, (s.pc t).Critical ↔ s.mutex = some t
  /-- 書き込みの直前のスレッドは、ロックの中で `h` が NULL であるのを見た。 -/
  alloc_null : ∀ t, s.pc t = .alloc → s.h = none
  /-- 作った印の `cbuff` は NULL か、今の `h` である。 -/
  markers : ∀ m ∈ s.markers, m = none ∨ m = s.h

/-! ## 一歩 -/

section Step

variable {s s' : AttachSys} {t : Nat} {alloc : Option Nat}

theorem AttachInv.init : AttachInv AttachSys.init where
  stored := rfl
  owner := fun _ => by simp [AttachSys.init, AttachPc.Critical]
  alloc_null := fun _ h => by cases h
  markers := fun _ h => by cases h

/-- `t` の位置を `p` に、ロックを `m'` に変える一歩は、`t` について `p` がロックの中であることと `m'` を `t` が
持つことが同じで、ほかのスレッドについてロックを持つかどうかが変わらなければ、`owner` を保つ。 -/
theorem owner_update (ho : ∀ u, (s.pc u).Critical ↔ s.mutex = some u) {p : AttachPc} {m' : Option Nat}
    (ht : p.Critical ↔ m' = some t) (hu : ∀ u, u ≠ t → (s.mutex = some u ↔ m' = some u)) :
    ∀ u, (Function.update s.pc t p u).Critical ↔ m' = some u := by
  intro u
  by_cases hut : u = t
  · subst hut; rw [Function.update_same, ht]
  · rw [Function.update_noteq hut, ho, hu u hut]

theorem allocNull_update {p : AttachPc} {h' : Option Nat} (ht : p = .alloc → h' = none)
    (hu : ∀ u, u ≠ t → s.pc u = .alloc → h' = none) : ∀ u, Function.update s.pc t p u = .alloc → h' = none := by
  intro u hp
  by_cases hut : u = t
  · subst hut; rw [Function.update_same] at hp; exact ht hp
  · rw [Function.update_noteq hut] at hp; exact hu u hut hp

theorem AttachInv.h_step (hi : AttachInv s) (h : attachStep s t alloc = some s') : s'.h = s.h ∨ s.h = none := by
  unfold attachStep at h
  split at h <;> (try split at h) <;> cases h
  all_goals first | exact .inl rfl | exact .inr (hi.alloc_null t ‹_›)

theorem AttachInv.step (hi : AttachInv s) (h : attachStep s t alloc = some s') : AttachInv s' := by
  -- ロックの外にいる `t` は、ロックの外へ動く限りロックを持たない
  have hout : ¬(s.pc t).Critical → ∀ {p : AttachPc}, ¬p.Critical → (p.Critical ↔ s.mutex = some t) :=
    fun h1 _ h2 => iff_of_false h2 fun hm => h1 ((hi.owner t).mpr hm)
  have hsame : ∀ u, u ≠ t → (s.mutex = some u ↔ s.mutex = some u) := fun _ _ => Iff.rfl
  have hnull : ∀ u, u ≠ t → s.pc u = .alloc → s.h = none := fun u _ => hi.alloc_null u
  unfold attachStep at h
  split at h
  · -- ロックの外の確認
    rename_i hpc
    cases h
    have hp : ¬(if s.h = none then AttachPc.lock else .marker).Critical := by split <;> exact id
    refine ⟨hi.stored, owner_update hi.owner (hout (by rw [hpc]; exact id) hp) hsame,
      allocNull_update (by split <;> exact fun h => by cases h) hnull, hi.markers⟩
  · -- ロック
    split at h
    · rename_i hm
      cases h
      refine ⟨hi.stored, owner_update hi.owner (iff_of_true trivial rfl) fun u hut => ?_,
        allocNull_update (fun h => by cases h) hnull, hi.markers⟩
      rw [hm]; exact iff_of_false (by simp) (by simpa using Ne.symm hut)
    · cases h
  · -- ロックの中の確認
    rename_i hpc
    cases h
    have hown := (hi.owner t).mp (by rw [hpc]; trivial)
    refine ⟨hi.stored, owner_update hi.owner (iff_of_true (by split <;> trivial) hown) hsame,
      allocNull_update (by split <;> first | exact fun _ => ‹_› | exact fun h => by cases h) hnull, hi.markers⟩
  · -- 書き込み
    rename_i hpc
    cases h
    have hh := hi.alloc_null t hpc
    have hown := (hi.owner t).mp (by rw [hpc]; trivial)
    refine ⟨by simp [hi.stored, hh], owner_update hi.owner (iff_of_true trivial hown) hsame,
      allocNull_update (fun h => by cases h) fun u hut hu => ?_, fun m hm => ?_⟩
    · have := (hi.owner u).mp (by rw [hu]; trivial)
      exact absurd (Option.some.inj (this.symm.trans hown)).symm (Ne.symm hut)
    · exact .inl ((hi.markers m hm).elim id (·.trans hh))
  · -- ロックを外す
    rename_i hpc
    cases h
    have hown := (hi.owner t).mp (by rw [hpc]; trivial)
    refine ⟨hi.stored, owner_update hi.owner (iff_of_false id (by simp)) fun u hut => ?_,
      allocNull_update (fun h => by cases h) hnull, hi.markers⟩
    rw [hown]; exact iff_of_false (by simpa using Ne.symm hut) (by simp)
  · -- 印
    rename_i hpc
    cases h
    refine ⟨hi.stored, owner_update hi.owner (hout (by rw [hpc]; exact id) id) hsame,
      allocNull_update (fun h => by cases h) hnull, fun m hm => ?_⟩
    rcases List.mem_append.mp hm with hm | hm
    · exact hi.markers m hm
    · exact .inr (List.mem_singleton.mp hm)
  · cases h

end Step

/-- どれかのスレッドの一歩。 -/
def AttachNext (s s' : AttachSys) : Prop := ∃ t alloc, attachStep s t alloc = some s'

/-- スレッドを `sched` の順に一歩ずつ進める（組はスレッドと、そのときの `fr_cbuff_alloc` の結果）。 -/
def attachRun : List (Nat × Option Nat) → AttachSys → Option AttachSys
  | [], s => some s
  | (t, alloc) :: sched, s => (attachStep s t alloc).bind (attachRun sched)

theorem AttachReach.run : ∀ {sched : List (Nat × Option Nat)} {s s' : AttachSys},
    AttachReach s → attachRun sched s = some s' → AttachReach s'
  | [], _, _, hs, h => Option.some.inj h ▸ hs
  | (_, _) :: _, _, _, hs, h => by
      obtain ⟨s1, h1, h2⟩ := Option.bind_eq_some.mp h
      exact AttachReach.run (hs.step h1) h2

theorem AttachReach.inv {s : AttachSys} (h : AttachReach s) : AttachInv s := by
  induction h with
  | init => exact AttachInv.init
  | step _ hs ih => exact ih.step hs

/-- 一度 NULL でなくなった `h` は、その後のどの一歩の列でも変わらない。 -/
theorem AttachInv.h_stays {s s' : AttachSys} (hs : AttachReach s) (h : Relation.ReflTransGen AttachNext s s')
    {b : Nat} (hb : s.h = some b) : s'.h = some b ∧ AttachReach s' := by
  induction h with
  | refl => exact ⟨hb, hs⟩
  | tail _ hnext ih =>
      obtain ⟨t, alloc, hstep⟩ := hnext
      obtain ⟨ih1, ih2⟩ := ih
      refine ⟨?_, ih2.step hstep⟩
      rcases ih2.inv.h_step hstep with h1 | h1
      · rw [h1, ih1]
      · rw [ih1] at h1; cases h1

/-! ## 定理 -/

/-- どのスレッドをどの順に進めても：`h` に書かれる NULL でない緩衝は高々一つで、一度 NULL でなくなった `h` は
その後のどの一歩の列でも変わらず、NULL でない印はどれも、ただ一つ書かれたその緩衝を指す。 -/
theorem attach_single_buffer {s : AttachSys} (hs : AttachReach s) :
    s.stored.length ≤ 1 ∧
    (∀ s', Relation.ReflTransGen AttachNext s s' → ∀ b, s.h = some b → s'.h = some b) ∧
    ∀ m ∈ s.markers, ∀ b, m = some b → s.stored = [b] := by
  have hi := hs.inv
  refine ⟨?_, fun s' h b hb => (AttachInv.h_stays hs h hb).1, fun m hm b hmb => ?_⟩
  · rw [hi.stored]; cases s.h <;> simp
  · rcases hi.markers m hm with h0 | h0
    · rw [h0] at hmb; cases hmb
    · rw [hi.stored, ← h0, hmb]; rfl

/-- 二本のスレッドが共にロックの外の確認を通り、先にロックを取ったスレッド 0 が緩衝 5 を書き、遅れたスレッド 1
はロックの中の確認でそれを見る。 -/
def twoThreadSchedule : List (Nat × Option Nat) :=
  [(0, none), (1, none), (0, none), (0, none), (0, some 5), (0, none), (1, none), (1, none), (1, none),
    (0, none), (1, none)]

theorem attach_single_buffer_two_threads :
    ∃ s, attachRun twoThreadSchedule AttachSys.init = some s ∧ s.stored = [5] ∧
      s.markers = [some 5, some 5] ∧ AttachReach s ∧
      (s.stored.length ≤ 1 ∧
      (∀ s', Relation.ReflTransGen AttachNext s s' → ∀ b, s.h = some b → s'.h = some b) ∧
      ∀ m ∈ s.markers, ∀ b, m = some b → s.stored = [b]) :=
  have hrun : attachRun twoThreadSchedule AttachSys.init = some _ := rfl
  have hs := AttachReach.init.run hrun
  ⟨_, hrun, rfl, rfl, hs, attach_single_buffer hs⟩

/-! ## 一本のスレッドと `frBacktraceAttach` -/

/-- スレッド `t` だけを `n` 歩進める。 -/
def attachSolo (t : Nat) (alloc : Option Nat) : Nat → AttachSys → Option AttachSys
  | 0, s => some s
  | n + 1, s => (attachStep s t alloc).bind (attachSolo t alloc n)

/-- 呼び始めたスレッドを、ロックが空いているときに一本だけ続けて進めると、`frBacktraceAttach` と同じ `h` になり、
同じ `cbuff` の印を一つ足して戻る。 -/
theorem attachSolo_frBacktraceAttach (s : AttachSys) {t : Nat} (alloc : Option Nat) (hpc : s.pc t = .outer)
    (hm : s.mutex = none) (r : Registry) (hr : r.h = s.h) (o : Nat) :
    ∃ n s', attachSolo t alloc n s = some s' ∧ s'.h = (frBacktraceAttach r o alloc).2.h ∧
      s'.markers = s.markers ++ [(frBacktraceAttach r o alloc).1.cbuff] ∧ s'.pc t = .done ∧ s'.mutex = none := by
  cases hh : s.h with
  | none =>
      refine ⟨6, ?_⟩
      simp [attachSolo, attachStep, hpc, hh, hm, frBacktraceAttach, hr]
  | some b =>
      refine ⟨2, ?_⟩
      simp [attachSolo, attachStep, hpc, hh, hm, frBacktraceAttach, hr]

end FreeRadiusDebug
