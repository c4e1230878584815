import Mathlib.Data.List.Basic

/-!
# talloc のメモリの報告

`fr_log_talloc_report(ctx)` は `fr_fault_log_fd` を `dup` して `FILE` を開き、`ctx` が NULL なら木全体を、そうで
なければ `ctx` から親をたどって、文脈ごとに `Context level %i` と `talloc_report_full` を書く。親が NULL になるか、
親の名前が NULL の文脈の名前（`talloc_get_name(NULL)`）と同じ番地になれば止まる。`dup` が失敗すれば何も開かず、
`fdopen` が失敗すれば `dup` した番号を閉じる。

talloc の文脈は木をなし、親をたどれば根に着く（`TallocTree.parent_rank`）。そのためループは止まり、書く文脈は
`ctx` とその祖先の、NULL の文脈の名前を持つ最初の祖先の手前までである（`reportLevels_eq`）。
-/

namespace FreeRadiusDebug

/-- talloc の文脈の木：親（`talloc_parent`、`none` は NULL）と、`talloc_get_name` が返す名前の番地。親は
子より低い `rank` を持つ。 -/
structure TallocTree where
  parent : Nat → Option Nat
  name : Nat → Nat
  rank : Nat → Nat
  parent_rank : ∀ c p, parent c = some p → rank p < rank c

/-- `fr_log_talloc_report` から見た外の世界。 -/
structure ReportEnv where
  /-- `dup(fd)`：新しい番号か、失敗したときの `fr_syserror(errno)`。 -/
  dup : Int → Except String Int
  /-- `fdopen(fd, "w")` が失敗したときの `fr_syserror(errno)`。 -/
  fdopen : Int → Option String
  tree : TallocTree
  /-- `talloc_get_name(NULL)`。 -/
  nullName : Nat

/-- 報告がする入出力。 -/
inductive ReportIo where
  /-- `dup` が返した番号。 -/
  | dup (fd : Int)
  | close (fd : Int)
  /-- `Current state of talloced memory:` -/
  | header
  /-- `Context level %i` -/
  | level (i : Nat)
  /-- `talloc_report_full(ctx, log)`。`none` は NULL（木全体）。 -/
  | full (ctx : Option Nat)
  | fclose (fd : Int)
  deriving DecidableEq

/-- `do { ... } while ((ctx = talloc_parent(ctx)) && (talloc_get_name(ctx) != null_ctx))`。`i` は次に書く段の
番号。 -/
def reportLevels (t : TallocTree) (nullName : Nat) (ctx i : Nat) : List ReportIo :=
  .level i :: .full (some ctx) ::
    match h : t.parent ctx with
    | none => []
    | some p => if t.name p ≠ nullName then reportLevels t nullName p (i + 1) else []
termination_by t.rank ctx
decreasing_by exact t.parent_rank ctx p h

/-- `fr_log_talloc_report(ctx)`：入出力と、失敗したときに `fr_strerror` に残す文字列。 -/
def frLogTallocReport (env : ReportEnv) (logFd : Int) (ctx : Option Nat) : List ReportIo × Except String Unit :=
  match env.dup logFd with
  | .error e => ([], .error ("Couldn't write memory report, failed to dup log fd: " ++ e))
  | .ok fd =>
      match env.fdopen fd with
      | some e => ([.dup fd, .close fd], .error ("Couldn't write memory report, fdopen failed: " ++ e))
      | none =>
          let body := match ctx with
            | none => [ReportIo.full none]
            | some c => reportLevels env.tree env.nullName c 0
          (.dup fd :: .header :: body ++ [.fclose fd], .ok ())

/-! ## ループの意味 -/

/-- `ctx` から親をたどった文脈の列（`ctx` を含み、根で終わる）。 -/
def ancestors (t : TallocTree) (ctx : Nat) : List Nat :=
  ctx :: match h : t.parent ctx with
    | none => []
    | some p => ancestors t p
termination_by t.rank ctx
decreasing_by exact t.parent_rank ctx p h

/-- 段 `i` から順に、文脈ごとに `Context level` と `talloc_report_full` を書いた列。 -/
def levelLines : Nat → List Nat → List ReportIo
  | _, [] => []
  | i, c :: cs => .level i :: .full (some c) :: levelLines (i + 1) cs

section Levels

variable {t : TallocTree}

theorem ancestors_of_parent_none {c : Nat} (h : t.parent c = none) : ancestors t c = [c] := by
  rw [ancestors]; split <;> simp_all

theorem ancestors_of_parent_some {c p : Nat} (h : t.parent c = some p) : ancestors t c = c :: ancestors t p := by
  rw [ancestors]; split <;> simp_all

theorem ancestors_eq_cons (c : Nat) : ancestors t c = c :: (ancestors t c).tail := by
  cases h : t.parent c
  · rw [ancestors_of_parent_none h]; rfl
  · rw [ancestors_of_parent_some h]; rfl

end Levels

/-- 報告のループが書くのは、`ctx` と、その祖先のうち `talloc_get_name(NULL)` と同じ名前を持つ最初のものの手前
までで、段の番号は `i` から一つずつ増える。 -/
theorem reportLevels_eq (t : TallocTree) (nullName : Nat) (ctx i : Nat) :
    reportLevels t nullName ctx i =
      levelLines i (ctx :: (ancestors t ctx).tail.takeWhile fun c => t.name c ≠ nullName) := by
  induction ctx, i using reportLevels.induct t nullName with
  | case1 c i ih =>
      rw [reportLevels]
      split
      · rename_i h
        rw [ancestors_of_parent_none h]; rfl
      · rename_i p h
        rw [ancestors_of_parent_some h, List.tail_cons, ancestors_eq_cons p, List.takeWhile_cons]
        split
        · rename_i hn
          rw [ih p h, if_pos (by simpa using hn)]; rfl
        · rename_i hn
          rw [if_neg (by simpa using hn)]; rfl

/-- 開けた報告は、見出しの後に、`ctx` が NULL なら木全体を、そうでなければ `ctx` とその祖先の段を書いて閉じる。 -/
theorem frLogTallocReport_of_open {env : ReportEnv} {logFd fd : Int} (hd : env.dup logFd = .ok fd)
    (ho : env.fdopen fd = none) (ctx : Option Nat) :
    frLogTallocReport env logFd ctx =
      (.dup fd :: .header :: (match ctx with
        | none => [.full none]
        | some c => levelLines 0 (c :: (ancestors env.tree c).tail.takeWhile fun p => env.tree.name p ≠ env.nullName))
        ++ [.fclose fd], .ok ()) := by
  cases ctx <;> simp [frLogTallocReport, hd, ho, reportLevels_eq]

end FreeRadiusDebug
