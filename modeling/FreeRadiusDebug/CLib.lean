import Mathlib.Data.List.Basic
import Mathlib.Data.Nat.Digits
import Mathlib.Tactic.Common
import Mathlib.Tactic.IntervalCases

/-!
# C の文字列と、それを読み書きする標準関数

`debug.c` が使う `strstr`、`strchr`、`snprintf`、`strlcpy` を、文字の並びとメモリの上の関数として書く。
メモリは配列の先頭からの番地ごとの文字で、配列の大きさを超える番地（配列の後ろのメモリ）への書き込みも表せる。
int と size_t の幅は x86-64 の Linux のもの（32 ビットと 64 ビット）とする。
-/

namespace FreeRadiusDebug

/-- NUL で終わる C の文字列の、NUL の手前の文字。途中に NUL はない。 -/
structure CStr where
  chars : List Char
  nul_free : '\x00' ∉ chars

/-! ## 整数の幅 -/

/-- `INT_MAX`。 -/
def INT_MAX : Nat := 2 ^ 31 - 1

/-- `SIZE_MAX`。 -/
def SIZE_MAX : Nat := 2 ^ 64 - 1

/-- `(int) n`：int への変換。gcc と clang は 2^32 を法として折り返す。 -/
def toCInt (n : Nat) : Int :=
  if n % 2 ^ 32 ≤ INT_MAX then (n % 2 ^ 32 : Nat) else ((n % 2 ^ 32 : Nat) : Int) - 2 ^ 32

/-- `snprintf` の戻り値を size_t の変数に入れた値。出力が `INT_MAX` 文字を超えると `-1` が返る。 -/
def sizeOfRet (len : Nat) : Nat := if len ≤ INT_MAX then len else SIZE_MAX

/-- size_t の引き算 `a - b`：2^64 を法として折り返す。 -/
def sizeSub (a b : Nat) : Nat := (a + 2 ^ 64 - b) % 2 ^ 64

theorem toCInt_of_le {n : Nat} (h : n ≤ INT_MAX) : toCInt n = n := by
  have : n % 2 ^ 32 = n := Nat.mod_eq_of_lt (by unfold INT_MAX at h; omega)
  unfold toCInt; rw [this, if_pos h]

/-- `k` が 2^32 の倍数なら `(int) k` は 0 である。 -/
theorem toCInt_of_mod_eq_zero {k : Nat} (hk : k % 2 ^ 32 = 0) : toCInt k = 0 := by
  unfold toCInt; rw [hk]; rfl

theorem sizeOfRet_of_le {n : Nat} (h : n ≤ INT_MAX) : sizeOfRet n = n := if_pos h

/-- 戻り値は、`INT_MAX` 以下の大きさ `left` との比べ方では出力の長さと同じにふるまう。 -/
theorem le_sizeOfRet_iff {left n : Nat} (h : left ≤ INT_MAX) : left ≤ sizeOfRet n ↔ left ≤ n := by
  unfold sizeOfRet SIZE_MAX; split <;> unfold INT_MAX at * <;> omega

/-- size_t の `a - 1` は、`a = 0` なら `SIZE_MAX` に折り返す。 -/
theorem sizeSub_one {a : Nat} (ha : a ≤ SIZE_MAX) : sizeSub a 1 = if a = 0 then SIZE_MAX else a - 1 := by
  unfold sizeSub SIZE_MAX at *; split <;> omega

/-! ## 書式 -/

/-- 書式 `%d` の出力（負でない数）：十進の数字の並び。 -/
def decimal (n : Nat) : List Char := Nat.toDigits 10 n

theorem digitChar_ne_nul (n : Nat) : Nat.digitChar n ≠ '\x00' := by
  rcases Nat.lt_or_ge n 16 with h | h
  · interval_cases n <;> decide
  · unfold Nat.digitChar
    repeat rw [if_neg (by omega)]
    decide

theorem nul_not_mem_toDigitsCore (b : Nat) :
    ∀ (f n : Nat) (acc : List Char), '\x00' ∉ acc → '\x00' ∉ Nat.toDigitsCore b f n acc
  | 0, _, _, h => h
  | f + 1, n, acc, h => by
      have hd : '\x00' ∉ Nat.digitChar (n % b) :: acc := by
        simp only [List.mem_cons, not_or]; exact ⟨(digitChar_ne_nul _).symm, h⟩
      unfold Nat.toDigitsCore
      dsimp only; split
      · exact hd
      · exact nul_not_mem_toDigitsCore b f _ _ hd

theorem nul_not_mem_decimal (n : Nat) : '\x00' ∉ decimal n :=
  nul_not_mem_toDigitsCore 10 _ n [] (List.not_mem_nil _)

theorem decimal_length_le {n : Nat} (h : n ≤ INT_MAX) : (decimal n).length ≤ 10 := by
  have := Nat.toDigitsCore_length 10 (by decide) (n + 1) n 10 (by unfold INT_MAX at h; omega) (by decide)
  simpa [decimal, Nat.toDigits] using this

/-! ## 文字列を調べる関数 -/

/-- 書式 `%.*s` の出力：精度が負なら文字列全体、そうでなければ先頭の精度の文字数まで。 -/
def precStr (prec : Int) (s : List Char) : List Char := if prec < 0 then s else s.take prec.toNat

@[simp] theorem precStr_natCast (n : Nat) (s : List Char) : precStr n s = s.take n := by
  unfold precStr; rw [if_neg (by omega)]; rfl

/-- `strstr(hay, needle)`：`needle` が最初に現れる位置（`q - hay`）。 -/
def strstr (hay needle : List Char) : Option Nat :=
  if needle.isPrefixOf hay then some 0
  else match hay with
    | [] => none
    | _ :: r => (strstr r needle).map (· + 1)

/-- `strchr(s, c)`：`c` が最初に現れる位置。 -/
def strchr : List Char → Char → Option Nat
  | [], _ => none
  | x :: s, c => if x = c then some 0 else (strchr s c).map (· + 1)

/-- メモリ：配列の先頭からの番地ごとの文字。 -/
abbrev Mem := Nat → Char

/-- 番地 `o` から `s` を書いたメモリ。 -/
def Mem.write (m : Mem) (o : Nat) (s : List Char) : Mem :=
  fun i => if o ≤ i then s[i - o]?.getD (m i) else m i

/-- 大きさ `n` の配列 `out` に、`s` の先頭の `n - 1` 文字と NUL を書く。`n = 0` なら何も書かない。`snprintf` と
`strlcpy` はどちらもこう書く。 -/
def Mem.writeTrunc (m : Mem) (out n : Nat) (s : List Char) : Mem :=
  if n = 0 then m else m.write out (s.take (n - 1) ++ ['\x00'])

/-- `snprintf(out, n, fmt, ...)`：出力 `s` の先頭の `n - 1` 文字と NUL を書き、出力の長さを返す。 -/
def snprintf (m : Mem) (out n : Nat) (s : List Char) : Mem × Nat :=
  (m.writeTrunc out n s, sizeOfRet s.length)

/-- `strlcpy(out, p, n)`：`p` の先頭の `n - 1` 文字と NUL を書き、`strlen(p)` を返す。 -/
def strlcpy (m : Mem) (out n : Nat) (p : List Char) : Mem × Nat :=
  (m.writeTrunc out n p, p.length)

/-- 番地 `o` から NUL の手前までの文字。配列の大きさ `n` の中だけを読む。 -/
def readStr (m : Mem) (o : Nat) : Nat → List Char
  | 0 => []
  | n + 1 => if m o = '\x00' then [] else m o :: readStr m (o + 1) n

namespace Mem

variable {m : Mem} {o i : Nat} {s : List Char}

theorem write_of_lt (h : i < o) : m.write o s i = m i := by
  simp [write, Nat.not_le.mpr h]

theorem write_of_ge (h : o + s.length ≤ i) : m.write o s i = m i := by
  simp [write, show o ≤ i by omega, List.getElem?_eq_none (show s.length ≤ i - o by omega)]

theorem write_add (j : Nat) : m.write o s (o + j) = s[j]?.getD (m (o + j)) := by
  simp [write]

@[simp] theorem write_nil : m.write o [] = m := by
  funext i; simp [write]

/-- 後から書いた文字列が、前に書いた文字列の後ろの `u` を覆えば、二つの書き込みは一つにまとまる。 -/
theorem write_write_append {u v : List Char} (h : u.length ≤ v.length) :
    (m.write o (s ++ u)).write (o + s.length) v = m.write o (s ++ v) := by
  funext i
  simp only [write]
  by_cases h1 : o + s.length ≤ i
  · have h2 : o ≤ i := by omega
    simp only [h1, h2, if_true, List.getElem?_append_right (show s.length ≤ i - o by omega),
      show i - o - s.length = i - (o + s.length) by omega]
    rcases Nat.lt_or_ge (i - (o + s.length)) v.length with h3 | h3
    · rw [List.getElem?_eq_getElem h3]; rfl
    · rw [List.getElem?_eq_none h3, List.getElem?_eq_none (show u.length ≤ i - (o + s.length) by omega)]; rfl
  · rw [if_neg h1]
    by_cases h2 : o ≤ i
    · rw [if_pos h2, if_pos h2, List.getElem?_append_left (by omega), List.getElem?_append_left (by omega)]
    · rw [if_neg h2, if_neg h2]

theorem write_cons {c : Char} : m.write o (c :: s) = (m.write o [c]).write (o + 1) s := by
  simpa using (write_write_append (m := m) (o := o) (s := [c]) (u := []) (v := s) (Nat.zero_le _)).symm

theorem writeTrunc_of_pos {n : Nat} (hn : 0 < n) :
    m.writeTrunc o n s = m.write o (s.take (n - 1) ++ ['\x00']) :=
  if_neg (by omega)

theorem writeTrunc_of_lt {n : Nat} (h : s.length < n) : m.writeTrunc o n s = m.write o (s ++ ['\x00']) := by
  rw [writeTrunc_of_pos (by omega), List.take_of_length_le (by omega)]

/-- `snprintf` と `strlcpy` は `out` から `n` バイトの外に書かない。 -/
theorem writeTrunc_frame {n : Nat} (hi : i < o ∨ o + n ≤ i) : m.writeTrunc o n s i = m i := by
  unfold writeTrunc; split
  · rfl
  · rcases hi with hi | hi
    · exact write_of_lt hi
    · exact write_of_ge (by simp; omega)

theorem writeTrunc_nul {n : Nat} (hn : 1 ≤ n) : ∃ i, o ≤ i ∧ i < o + n ∧ m.writeTrunc o n s i = '\x00' := by
  refine ⟨o + (s.take (n - 1)).length, by omega, by rw [List.length_take]; omega, ?_⟩
  rw [writeTrunc_of_pos hn, write_add, List.getElem?_append_right (le_refl _), Nat.sub_self]
  rfl

end Mem

/-- 途中に NUL のない `s` と NUL を書けば、そこから読む文字列は `s` である。 -/
theorem readStr_write {s : List Char} (hs : '\x00' ∉ s) :
    ∀ {m : Mem} {o n : Nat}, s.length < n → readStr (m.write o (s ++ ['\x00'])) o n = s := by
  induction s with
  | nil =>
      intro m o n hn
      obtain ⟨n, rfl⟩ : ∃ k, n = k + 1 := ⟨n - 1, by simp at hn; omega⟩
      simp [readStr, Mem.write]
  | cons c s ih =>
      intro m o n hn
      obtain ⟨n, rfl⟩ : ∃ k, n = k + 1 := ⟨n - 1, by simp at hn; omega⟩
      have hc : c ≠ '\x00' := fun e => hs (e ▸ List.mem_cons_self _ _)
      have hw : m.write o (c :: (s ++ ['\x00'])) o = c := by simp [Mem.write]
      simp only [List.cons_append, readStr, hw, hc, if_false]
      rw [Mem.write_cons, ih (fun h => hs (List.mem_cons_of_mem _ h)) (by simp at hn; omega)]

theorem nul_not_mem_readStr (m : Mem) : ∀ (o n : Nat), '\x00' ∉ readStr m o n
  | _, 0 => List.not_mem_nil _
  | o, n + 1 => by
      unfold readStr; split
      · exact List.not_mem_nil _
      · rename_i h
        simp only [List.mem_cons, not_or]
        exact ⟨Ne.symm h, nul_not_mem_readStr m (o + 1) n⟩

end FreeRadiusDebug
