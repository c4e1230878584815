import FreeRadiusDebug.CLib

/-!
# 置き換えのループ

`fr_fault_setup` は `cmd` の中の `%e` をプログラムの名前に、`fr_fault` は `panic_action` の中の `%p` を
プロセスの番号に置き換える。二つのループは同じ形なので、一回りを `loopStep`、ループ全体を `substLoop` に書き、
置き換える文字と文字列を引数にとる。置き換えの意味は `subst`：左から重ならずに置き換え、置き換えた文字列は
読み直さない。
-/

namespace FreeRadiusDebug

/-! ## 置き換えの意味 -/

/-- `p` の中の `%c` を、左から重ならずに `arg` へ置き換えた文字列。 -/
def subst (c : Char) (arg : List Char) : List Char → List Char
  | '%' :: d :: r => if d = c then arg ++ subst c arg r else '%' :: subst c arg (d :: r)
  | x :: r => x :: subst c arg r
  | [] => []

/-- `subst` が置き換える `%c` の数。 -/
def tokCount (c : Char) : List Char → Nat
  | '%' :: d :: r => if d = c then tokCount c r + 1 else tokCount c (d :: r)
  | _ :: r => tokCount c r
  | [] => 0

section Subst

variable {c : Char} {arg : List Char}

@[simp] theorem subst_tok (r : List Char) : subst c arg ('%' :: c :: r) = arg ++ subst c arg r := by
  simp [subst]

@[simp] theorem tokCount_tok (r : List Char) : tokCount c ('%' :: c :: r) = tokCount c r + 1 := by
  simp [tokCount]

theorem not_tok_of_ne {d : Char} {r : List Char} (hd : ¬d = c) : ¬('%' = '%' ∧ (d :: r).head? = some c) :=
  fun h => hd (Option.some.inj h.2)

theorem not_tok_of_last {x : Char} {r : List Char} (hx : ∀ d r', x = '%' → r = d :: r' → False) :
    ¬(x = '%' ∧ r.head? = some c) := by
  rintro ⟨h, hr⟩
  cases r with
  | nil => cases hr
  | cons d r => exact hx d r h rfl

theorem subst_cons_of_not_tok {x : Char} {r : List Char} (h : ¬(x = '%' ∧ r.head? = some c)) :
    subst c arg (x :: r) = x :: subst c arg r := by
  cases r with
  | nil => simp [subst]
  | cons d r =>
      by_cases hx : x = '%'
      · subst hx
        have hd : ¬d = c := by simpa using h
        simp [subst, hd]
      · simp [subst, hx]

theorem tokCount_cons_of_not_tok {x : Char} {r : List Char} (h : ¬(x = '%' ∧ r.head? = some c)) :
    tokCount c (x :: r) = tokCount c r := by
  cases r with
  | nil => simp [tokCount]
  | cons d r =>
      by_cases hx : x = '%'
      · subst hx
        have hd : ¬d = c := by simpa using h
        simp [tokCount, hd]
      · simp [tokCount, hx]

theorem length_subst (p : List Char) :
    (subst c arg p).length + 2 * tokCount c p = p.length + tokCount c p * arg.length := by
  induction p using subst.induct c arg with
  | case1 r ih =>
      rw [subst_tok, tokCount_tok, List.length_append, List.length_cons, List.length_cons, Nat.add_mul]
      omega
  | case2 d r hd ih =>
      rw [subst_cons_of_not_tok (not_tok_of_ne hd), tokCount_cons_of_not_tok (not_tok_of_ne hd),
        List.length_cons, List.length_cons]
      omega
  | case3 x r hx ih =>
      rw [subst_cons_of_not_tok (not_tok_of_last hx), tokCount_cons_of_not_tok (not_tok_of_last hx),
        List.length_cons, List.length_cons]
      omega
  | case4 => simp [subst, tokCount]

theorem nul_free_subst (harg : '\x00' ∉ arg) {p : List Char} (hp : '\x00' ∉ p) :
    '\x00' ∉ subst c arg p := by
  induction p using subst.induct c arg with
  | case1 r ih => simp_all
  | case2 d r hd ih => rw [subst_cons_of_not_tok (not_tok_of_ne hd)]; simp_all
  | case3 x r hx ih => rw [subst_cons_of_not_tok (not_tok_of_last hx)]; simp_all
  | case4 => exact hp

end Subst

/-! ## 一度に置き換える意味 -/

/-- 仕様の言う置き換え：`%e` を `prog` に、`%p` を `pid` に、左から一度で置き換え、置き換えた文字列は読み直さない。 -/
def expandOnce (prog pid : List Char) : List Char → List Char
  | '%' :: d :: r =>
      if d = 'e' then prog ++ expandOnce prog pid r
      else if d = 'p' then pid ++ expandOnce prog pid r
      else '%' :: expandOnce prog pid (d :: r)
  | x :: r => x :: expandOnce prog pid r
  | [] => []

section Twice

variable {prog pid : List Char}

theorem subst_append_of_pct_not_mem {c : Char} {arg : List Char} {u : List Char} (hu : '%' ∉ u)
    (v : List Char) : subst c arg (u ++ v) = u ++ subst c arg v := by
  induction u with
  | nil => rfl
  | cons x u ih =>
      have hx : x ≠ '%' := fun h => hu (h ▸ List.mem_cons_self _ _)
      rw [List.cons_append, subst_cons_of_not_tok (by simp [hx]), ih (fun h => hu (List.mem_cons_of_mem _ h))]
      rfl

theorem head_subst_e (h1 : prog ≠ []) (h3 : prog.head? ≠ some 'p') {d : Char} {r : List Char}
    (hd : d ≠ 'p') : (subst 'e' prog (d :: r)).head? ≠ some 'p' := by
  by_cases htok : d = '%' ∧ r.head? = some 'e'
  · obtain ⟨rfl, hr⟩ := htok
    obtain ⟨r, rfl⟩ : ∃ r', r = 'e' :: r' := by cases r <;> simp_all
    obtain ⟨x, xs, rfl⟩ : ∃ x xs, prog = x :: xs := by cases prog <;> simp_all
    simpa using h3
  · rw [subst_cons_of_not_tok htok]; simpa using hd

/-- 名前が空でなく、`%` を含まず、`p` で始まらなければ、`%e` の後に `%p` を置き換える二段の置き換えは、
一度の置き換えと一致する。 -/
theorem subst_subst_eq_expandOnce (h1 : prog ≠ []) (h2 : '%' ∉ prog) (h3 : prog.head? ≠ some 'p')
    (s : List Char) : subst 'p' pid (subst 'e' prog s) = expandOnce prog pid s := by
  induction s using expandOnce.induct prog pid with
  | case1 r ih =>
      simp [expandOnce, subst_append_of_pct_not_mem h2, ih]
  | case2 r _ ih => simp [expandOnce, subst, ih]
  | case3 d r hd hp ih =>
      rw [subst_cons_of_not_tok (not_tok_of_ne hd), subst_cons_of_not_tok (by simpa using head_subst_e h1 h3 hp), ih]
      simp [expandOnce, hd, hp]
  | case4 x r hx ih =>
      have hne : ¬(x = '%' ∧ r.head? = some 'e') := not_tok_of_last hx
      have hnp : ¬(x = '%' ∧ (subst 'e' prog r).head? = some 'p') := by
        rintro ⟨rfl, h⟩
        obtain ⟨d, r, rfl⟩ : ∃ d r', r = d :: r' := by cases r <;> simp_all [subst]
        exact hx d r rfl rfl
      rw [subst_cons_of_not_tok hne, subst_cons_of_not_tok hnp, ih]
      cases r <;> simp_all [expandOnce]
  | case5 => rfl

end Twice

/-! ## `strstr` で見つける `%c` -/

section Strstr

variable {c : Char} {arg : List Char}

theorem strstr_cons (x : Char) (r : List Char) :
    strstr (x :: r) ['%', c] =
      if x = '%' ∧ r.head? = some c then some 0 else (strstr r ['%', c]).map (· + 1) := by
  rw [strstr]
  cases r with
  | nil => simp [List.isPrefixOf]
  | cons d r =>
      by_cases hx : x = '%'
      · subst hx
        by_cases hd : d = c
        · subst hd; simp [List.isPrefixOf]
        · simp [List.isPrefixOf, Ne.symm hd, hd]
      · simp [List.isPrefixOf, Ne.symm hx, hx]

/-- 見つけた `%c` は `p` の中にあり、`subst` はその手前を残して、そこを `arg` に置き換える。 -/
theorem strstr_some {p : List Char} {k : Nat} (h : strstr p ['%', c] = some k) :
    k + 2 ≤ p.length ∧ subst c arg p = p.take k ++ arg ++ subst c arg (p.drop (k + 2)) := by
  induction p generalizing k with
  | nil => simp [strstr, List.isPrefixOf] at h
  | cons x r ih =>
      rw [strstr_cons] at h
      split at h
      · rename_i hx
        obtain ⟨rfl, hr⟩ := hx
        obtain ⟨d, r, rfl⟩ : ∃ d r', r = d :: r' := by cases r <;> simp_all
        simp only [List.head?_cons, Option.some.injEq] at hr
        cases h; subst hr; simp
      · rename_i hx
        obtain ⟨k, hk, rfl⟩ := Option.map_eq_some'.mp h
        obtain ⟨hlen, hs⟩ := ih hk
        refine ⟨by simp; omega, ?_⟩
        rw [subst_cons_of_not_tok hx, hs]; simp

theorem strstr_replicate_append {x : Char} (hx : x ≠ '%') :
    ∀ n, strstr (List.replicate n x ++ ['%', c]) ['%', c] = some n
  | 0 => by simp [strstr, List.isPrefixOf]
  | n + 1 => by
      rw [List.replicate_succ, List.cons_append, strstr_cons, if_neg (fun h => hx h.1),
        strstr_replicate_append hx n]
      rfl

theorem strstr_none {p : List Char} (h : strstr p ['%', c] = none) : subst c arg p = p := by
  induction p with
  | nil => simp [subst]
  | cons x r ih =>
      rw [strstr_cons] at h
      split at h
      · cases h
      · rename_i hx; rw [subst_cons_of_not_tok hx, ih (by simpa using h)]

end Strstr

/-! ## ループ -/

/-- ループの変数：メモリ、書き込み先 `out`、残りの大きさ `left`、まだ読んでいない `p`。 -/
structure LoopState where
  mem : Mem
  out : Nat
  left : Nat
  p : List Char

/-- ループの一回りの行き先。`oob` は `goto oob`（長すぎる）、`done` は最後の `strlcpy` の後。 -/
inductive LoopNext where
  | next (s : LoopState)
  | oob (m : Mem)
  | done (m : Mem)

/-- ループの一回り。`%c` があれば、その手前（`%.*s`、精度は `(int) (q - p)`）と `arg` を `snprintf` で書く。
なければ残りを `strlcpy` で書く。 -/
def loopStep (c : Char) (arg : List Char) (s : LoopState) : LoopNext :=
  match strstr s.p ['%', c] with
  | some k =>
      let r := snprintf s.mem s.out s.left (precStr (toCInt k) s.p ++ arg)
      if s.left ≤ r.2 then .oob r.1 else .next ⟨r.1, s.out + r.2, s.left - r.2, s.p.drop (k + 2)⟩
  | none => if s.left ≤ s.p.length then .oob s.mem else .done (strlcpy s.mem s.out s.left s.p).1

/-- 一回りで次へ進むのは、`%c` を見つけて、その手前と `arg` が残りに収まったときである。 -/
theorem loopStep_next {c : Char} {arg : List Char} {s s' : LoopState}
    (h : loopStep c arg s = .next s') :
    ∃ k, strstr s.p ['%', c] = some k ∧
      s'.mem = (snprintf s.mem s.out s.left (precStr (toCInt k) s.p ++ arg)).1 ∧
      sizeOfRet (precStr (toCInt k) s.p ++ arg).length < s.left ∧
      s'.out = s.out + sizeOfRet (precStr (toCInt k) s.p ++ arg).length ∧
      s'.left = s.left - sizeOfRet (precStr (toCInt k) s.p ++ arg).length ∧
      s'.p = s.p.drop (k + 2) := by
  unfold loopStep at h
  split at h
  · rename_i k hk
    dsimp only at h
    split at h
    · cases h
    · rename_i hle; cases h; exact ⟨k, hk, rfl, Nat.lt_of_not_le hle, rfl, rfl, rfl⟩
  · split at h <;> cases h

/-- 一回りで `goto oob` に行くのは、`%c` の手前と `arg` が残りに収まらないか、`%c` がなくて残りの `p` が
収まらないときである。 -/
theorem loopStep_oob {c : Char} {arg : List Char} {s : LoopState} {m : Mem}
    (h : loopStep c arg s = .oob m) :
    (∃ k, strstr s.p ['%', c] = some k ∧
      s.left ≤ sizeOfRet (precStr (toCInt k) s.p ++ arg).length ∧
      m = (snprintf s.mem s.out s.left (precStr (toCInt k) s.p ++ arg)).1) ∨
    (strstr s.p ['%', c] = none ∧ s.left ≤ s.p.length ∧ m = s.mem) := by
  unfold loopStep at h
  split at h
  · rename_i k hk
    dsimp only at h
    split at h
    · rename_i hle; cases h; exact .inl ⟨k, hk, hle, rfl⟩
    · cases h
  · rename_i hk
    split at h
    · rename_i hle; cases h; exact .inr ⟨hk, hle, rfl⟩
    · cases h

theorem loopStep_done {c : Char} {arg : List Char} {s : LoopState} {m : Mem}
    (h : loopStep c arg s = .done m) :
    strstr s.p ['%', c] = none ∧ s.p.length < s.left ∧ m = (strlcpy s.mem s.out s.left s.p).1 := by
  unfold loopStep at h
  split at h
  · dsimp only at h; split at h <;> cases h
  · rename_i hk
    split at h
    · cases h
    · rename_i hle; cases h; exact ⟨hk, Nat.lt_of_not_le hle, rfl⟩

theorem loopStep_next_length {c : Char} {arg : List Char} {s s' : LoopState}
    (h : loopStep c arg s = .next s') : s'.p.length < s.p.length := by
  obtain ⟨k, hk, -, -, -, -, hp⟩ := loopStep_next h
  have := (@strstr_some _ arg _ _ hk).1
  rw [hp, List.length_drop]; omega

/-- ループ全体：`oob` なら `.error`（その時点のメモリ）、`done` なら `.ok`。 -/
def substLoop (c : Char) (arg : List Char) (s : LoopState) : Except Mem Mem :=
  match hs : loopStep c arg s with
  | .next s' => substLoop c arg s'
  | .oob m => .error m
  | .done m => .ok m
termination_by s.p.length
decreasing_by exact loopStep_next_length hs

section Loop

variable {c : Char} {arg : List Char}

theorem substLoop_eq (s : LoopState) :
    substLoop c arg s = match loopStep c arg s with
      | .next s' => substLoop c arg s'
      | .oob m => .error m
      | .done m => .ok m := by
  rw [substLoop]; split <;> rename_i h <;> simp [h]

theorem substLoop_of_next {s s' : LoopState} (h : loopStep c arg s = .next s') :
    substLoop c arg s = substLoop c arg s' := by
  rw [substLoop_eq, h]

theorem substLoop_of_oob {s : LoopState} {m : Mem} (h : loopStep c arg s = .oob m) :
    substLoop c arg s = .error m := by
  rw [substLoop_eq, h]

theorem substLoop_of_done {s : LoopState} {m : Mem} (h : loopStep c arg s = .done m) :
    substLoop c arg s = .ok m := by
  rw [substLoop_eq, h]

/-! ## どの道でも書き込みは窓の中 -/

/-- `m` は `s` のメモリと、書き込みの窓 `[s.out, s.out + s.left)` の外で同じである。 -/
def InWindow (s : LoopState) (m : Mem) : Prop :=
  ∀ i, (i < s.out ∨ s.out + s.left ≤ i) → m i = s.mem i

theorem loopStep_next_window {s s' : LoopState} (h : loopStep c arg s = .next s') :
    InWindow s s'.mem ∧ s.out ≤ s'.out ∧ s'.out + s'.left = s.out + s.left ∧ 1 ≤ s'.left := by
  obtain ⟨k, -, hm, hlt, hout, hleft, -⟩ := loopStep_next h
  exact ⟨fun i hi => hm ▸ Mem.writeTrunc_frame hi, by omega, by omega, by omega⟩

/-- ループの後のメモリは、どの長さの `p` でも、初めの窓の外では変わらない。 -/
theorem substLoop_inWindow (s : LoopState) {m : Mem}
    (h : substLoop c arg s = .ok m ∨ substLoop c arg s = .error m) : InWindow s m := by
  induction s using substLoop.induct c arg with
  | case1 s s' hs ih =>
      rw [substLoop_of_next hs] at h
      obtain ⟨hw, hout, hsum, -⟩ := loopStep_next_window hs
      intro i hi
      rw [ih h i (by omega), hw i hi]
  | case2 s m' hs =>
      rw [substLoop_of_oob hs] at h
      rcases h with h | h <;> cases h
      rcases loopStep_oob hs with ⟨k, -, -, rfl⟩ | ⟨-, -, rfl⟩
      · exact fun i hi => Mem.writeTrunc_frame hi
      · exact fun _ _ => rfl
  | case3 s m' hs =>
      rw [substLoop_of_done hs] at h
      rcases h with h | h <;> cases h
      obtain ⟨-, -, rfl⟩ := loopStep_done hs
      exact fun i hi => Mem.writeTrunc_frame hi

theorem substLoop_nul (s : LoopState) (hl : 1 ≤ s.left) {m : Mem}
    (h : substLoop c arg s = .ok m ∨ substLoop c arg s = .error m) :
    (∃ i, s.out ≤ i ∧ i < s.out + s.left ∧ m i = '\x00') ∨ m = s.mem := by
  induction s using substLoop.induct c arg with
  | case1 s s' hs ih =>
      rw [substLoop_of_next hs] at h
      obtain ⟨-, hout, hsum, hpos⟩ := loopStep_next_window hs
      rcases ih hpos h with ⟨i, h1, h2, h3⟩ | rfl
      · exact .inl ⟨i, by omega, by omega, h3⟩
      · obtain ⟨k, -, hm, hlt, -, -, -⟩ := loopStep_next hs
        obtain ⟨i, h1, h2, h3⟩ := @Mem.writeTrunc_nul s.mem s.out (precStr (toCInt k) s.p ++ arg) _ hl
        exact .inl ⟨i, h1, h2, hm ▸ h3⟩
  | case2 s m' hs =>
      rw [substLoop_of_oob hs] at h
      rcases h with h | h <;> cases h
      rcases loopStep_oob hs with ⟨k, -, -, rfl⟩ | ⟨-, -, rfl⟩
      · exact .inl (Mem.writeTrunc_nul hl)
      · exact .inr rfl
  | case3 s m' hs =>
      rw [substLoop_of_done hs] at h
      rcases h with h | h <;> cases h
      obtain ⟨-, -, rfl⟩ := loopStep_done hs
      exact .inl (Mem.writeTrunc_nul hl)

/-- ループが通る変数の状態。 -/
inductive LoopReach (c : Char) (arg : List Char) : LoopState → LoopState → Prop where
  | refl (s : LoopState) : LoopReach c arg s s
  | step {s s' t : LoopState} : loopStep c arg s = .next s' → LoopReach c arg s' t → LoopReach c arg s t

/-- ループが通るどの状態でも `left` は 1 以上で、`out + left` は初めの値のままである：size_t の `left -= ret`
は桁あふれしない。 -/
theorem LoopReach.left_pos {s t : LoopState} (h : LoopReach c arg s t) (hs : 1 ≤ s.left) :
    1 ≤ t.left ∧ t.out + t.left = s.out + s.left := by
  induction h with
  | refl => exact ⟨hs, rfl⟩
  | step hstep _ ih =>
      obtain ⟨-, -, hsum, hpos⟩ := loopStep_next_window hstep
      obtain ⟨h1, h2⟩ := ih hpos
      exact ⟨h1, h2.trans hsum⟩

/-! ## 長さが int に収まるときのループの意味 -/

theorem precStr_toCInt {k : Nat} (hk : k ≤ INT_MAX) (p : List Char) :
    precStr (toCInt k) p = p.take k := by
  rw [toCInt_of_le hk, precStr_natCast]

theorem piece_eq {p : List Char} {k : Nat} (hk : strstr p ['%', c] = some k) (hp : p.length ≤ INT_MAX) :
    precStr (toCInt k) p ++ arg = p.take k ++ arg ∧
      subst c arg p = (p.take k ++ arg) ++ subst c arg (p.drop (k + 2)) := by
  obtain ⟨hlen, hs⟩ := @strstr_some _ arg _ _ hk
  exact ⟨by rw [precStr_toCInt (by omega)], hs⟩

/-- `substLoop` の意味。`p` の長さが int に収まるなら、`subst c arg p` の全体が窓に収まるときはそれと NUL を
書いて終わり、収まらないときは `goto oob` に行く。そのときのメモリは、`subst c arg p` の先頭の一部と NUL を
書いたメモリか、`%c` がなければ元のメモリである。 -/
theorem substLoop_spec (s : LoopState) (hp : s.p.length ≤ INT_MAX) (hl : 1 ≤ s.left)
    (hl' : s.left ≤ INT_MAX) :
    ((subst c arg s.p).length < s.left ∧
      substLoop c arg s = .ok (s.mem.write s.out (subst c arg s.p ++ ['\x00']))) ∨
    (s.left ≤ (subst c arg s.p).length ∧ ∃ m, substLoop c arg s = .error m ∧
      ((strstr s.p ['%', c] = none ∧ m = s.mem) ∨
        ∃ X, X <+: subst c arg s.p ∧ X.length < s.left ∧ m = s.mem.write s.out (X ++ ['\x00']))) := by
  induction s using substLoop.induct c arg with
  | case1 s s' hs ih =>
      obtain ⟨k, hk, hm, hlt, hout, hleft, hp'⟩ := loopStep_next hs
      obtain ⟨hpiece, hE⟩ := @piece_eq _ arg _ _ hk hp
      rw [hpiece] at hm hlt hout hleft
      set piece := s.p.take k ++ arg
      have hL : piece.length < s.left :=
        Nat.lt_of_not_le fun h => absurd hlt (Nat.not_lt.mpr ((le_sizeOfRet_iff hl').mpr h))
      rw [sizeOfRet_of_le (by omega)] at hout hleft
      have hm' : s'.mem = s.mem.write s.out (piece ++ ['\x00']) := by
        rw [hm, snprintf, Mem.writeTrunc_of_lt (by omega)]
      have hlen' : (s.p.drop (k + 2)).length ≤ INT_MAX := by simp; omega
      rw [substLoop_of_next hs, hE]
      rw [hp'] at ih
      rcases ih (by simpa [hp'] using hlen') (by omega) (by omega) with ⟨hfit, hok⟩ | ⟨hlong, m, herr, hm2⟩
      · refine .inl ⟨by rw [List.length_append]; omega, ?_⟩
        rw [hok, hm', hout, Mem.write_write_append (by simp)]; simp [piece]
      · refine .inr ⟨by rw [List.length_append]; omega, m, herr, .inr ?_⟩
        rcases hm2 with ⟨-, rfl⟩ | ⟨X, hX, hXl, rfl⟩
        · exact ⟨piece, List.prefix_append _ _, hL, hm'⟩
        · refine ⟨piece ++ X, (List.prefix_append_right_inj _).mpr hX, by simp; omega, ?_⟩
          rw [hm', hout, Mem.write_write_append (by simp)]; simp [piece]
  | case2 s m hs =>
      rw [substLoop_of_oob hs]
      rcases loopStep_oob hs with ⟨k, hk, hle, rfl⟩ | ⟨hk, hle, rfl⟩
      · obtain ⟨hpiece, hE⟩ := @piece_eq _ arg _ _ hk hp
        rw [hpiece] at hle ⊢
        have hL := (le_sizeOfRet_iff hl').mp hle
        refine .inr ⟨by rw [hE, List.length_append]; omega, _, rfl,
          .inr ⟨(s.p.take k ++ arg).take (s.left - 1), ?_, ?_, ?_⟩⟩
        · exact (List.take_prefix _ _).trans (hE ▸ List.prefix_append _ _)
        · exact (List.length_take_le _ _).trans_lt (by omega)
        · rw [snprintf, Mem.writeTrunc_of_pos (by omega)]
      · exact .inr ⟨by rw [strstr_none hk]; exact hle, _, rfl, .inl ⟨hk, rfl⟩⟩
  | case3 s m hs =>
      rw [substLoop_of_done hs]
      obtain ⟨hk, hlt, rfl⟩ := loopStep_done hs
      rw [strstr_none hk]
      refine .inl ⟨hlt, ?_⟩
      rw [strlcpy, Mem.writeTrunc_of_lt (by omega)]

/-! ## `(int) (q - p)` の折り返し -/

/-- `%c` が 2^32 の倍数の位置に一つだけあれば、その手前は精度 `(int) (q - p) = 0` で捨てられ、ループは `arg`
だけを書いて終わる。`p` の長さは窓の大きさを超えていてよい。 -/
theorem substLoop_wrap (s : LoopState) {x : Char} (hx : x ≠ '%') {n : Nat} (hn : n % 2 ^ 32 = 0)
    (hp : s.p = List.replicate n x ++ ['%', c]) (hfit : arg.length < s.left) (hl : s.left ≤ INT_MAX) :
    substLoop c arg s = .ok (s.mem.write s.out (arg ++ ['\x00'])) := by
  have hd : s.p.drop (n + 2) = [] := List.drop_eq_nil_of_le (by simp [hp])
  have hk : precStr (toCInt n) s.p = [] := by rw [toCInt_of_mod_eq_zero hn]; rfl
  have hr : sizeOfRet arg.length = arg.length := sizeOfRet_of_le (by omega)
  have h1 : loopStep c arg s =
      .next ⟨s.mem.write s.out (arg ++ ['\x00']), s.out + arg.length, s.left - arg.length, []⟩ := by
    rw [loopStep, hp, strstr_replicate_append hx n]
    dsimp only
    rw [← hp, hk, hd, List.nil_append, snprintf, Mem.writeTrunc_of_lt hfit]
    simp only [hr, if_neg (show ¬s.left ≤ arg.length by omega)]
  have h2 : loopStep c arg ⟨s.mem.write s.out (arg ++ ['\x00']), s.out + arg.length, s.left - arg.length, []⟩ =
      .done ((s.mem.write s.out (arg ++ ['\x00'])).write (s.out + arg.length) ['\x00']) := by
    rw [loopStep, show strstr [] ['%', c] = none from rfl]
    simp only [List.length_nil, strlcpy, if_neg (show ¬s.left - arg.length ≤ 0 by omega),
      Mem.writeTrunc_of_lt (show [].length < s.left - arg.length by simp; omega), List.nil_append]
  rw [substLoop_of_next h1, substLoop_of_done h2, Mem.write_write_append (le_refl _)]

end Loop

end FreeRadiusDebug
