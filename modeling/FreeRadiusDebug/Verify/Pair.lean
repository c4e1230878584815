import FreeRadiusDebug.CLib

/-!
# `VALUE_PAIR` の検査

`WITH_VERIFY_PTR` で作るときの `fr_verify_vp` と `fr_verify_list`。`fr_verify_vp` は `vp` とその値の緩衝の
talloc の型の名前と長さを調べ、`fr_verify_list` は列の各要素にそれを行ってから、親の talloc の文脈を調べる。
どの失敗もプロセスを終える：`talloc_get_type_abort` と `assert(0)` は `abort()` し、長さの失敗は
`fr_exit_now(1)` に行く。`fr_assert` は `_fr_do_bt` と同じく条件を返すだけとする。

検査が通すのは、正しい `VALUE_PAIR`（`WellFormed`）と、もう一つである。文字列の緩衝の長さ
`talloc_array_length(vp->vp_strvalue) - 1` は size_t の引き算なので、空の緩衝では `SIZE_MAX` に折り返し、長さの
検査は通って、NUL の検査は緩衝の後ろのバイトを読む（`EmptyStringRead`）。
-/

namespace FreeRadiusDebug

/-- `vp->da->type` のうち、`fr_verify_vp` が見分けるもの。 -/
inductive PwType where
  | octets
  | tlv
  | string
  /-- ほかの型。`fr_verify_vp` は値を調べない。 -/
  | other
  deriving DecidableEq

/-- talloc で取った配列：`talloc_get_type` が比べる型の名前、`talloc_array_length`、中身。`size` 以上の番地は
配列の後ろのメモリ。 -/
structure TallocArray where
  name : String
  size : Nat
  size_le : size ≤ SIZE_MAX
  mem : Mem

/-- `VALUE_PAIR` の、検査が読む部分。 -/
structure ValuePair where
  /-- `vp` 自身の talloc の型の名前。 -/
  chunk : String
  /-- `vp->da->name`。 -/
  name : String
  /-- `vp->da->type`。 -/
  type : PwType
  /-- `vp->data.ptr`（`vp_octets` と `vp_strvalue`）。`none` は NULL。 -/
  data : Option TallocArray
  /-- `vp->length`。 -/
  length : Nat
  length_le : length ≤ SIZE_MAX
  /-- `talloc_parent(vp)`。`none` は NULL。 -/
  parent : Option Nat

/-- 検査が起こす事。 -/
inductive VerifyEvent where
  /-- `fr_perror` の行。 -/
  | perror (msg : String)
  /-- `talloc_get_type_abort` が型の名前の違いで `abort()` する。 -/
  | typeAbort (type : String)
  /-- `fr_exit_now(1)`。 -/
  | exit (code : Int)
  /-- `fr_log_talloc_report(ctx)`。 -/
  | tallocReport (ctx : Nat)
  /-- `assert(0)` の `abort()`。 -/
  | assertAbort
  deriving DecidableEq

/-- glibc の `%p`：`0x` と小文字の十六進。NULL は `(nil)`。 -/
def fmtPtr : Option Nat → String
  | some p => "0x" ++ String.mk (Nat.toDigits 16 p)
  | none => "(nil)"

/-! ## `fr_verify_vp` -/

/-- `talloc_get_type(vp->data.ptr, type)` が NULL を返したとき。続く `talloc_get_type_abort` は同じ名前を比べて
`abort()` する。 -/
def typeCheckFailed (vp : ValuePair) (type : String) : List VerifyEvent :=
  [.perror ("Type check failed for attribute \"" ++ vp.name ++ "\""), .typeAbort type]

/-- `PW_TYPE_OCTETS` と `PW_TYPE_TLV` の場合。 -/
def verifyOctets (vp : ValuePair) (d : TallocArray) : Option (List VerifyEvent) :=
  if d.name ≠ "uint8_t" then some (typeCheckFailed vp "uint8_t")
  else if d.size < vp.length then
    some [.perror ("VALUE_PAIR length " ++ String.mk (decimal vp.length) ++
      " does not equal uint8_t buffer length " ++ String.mk (decimal d.size)), .exit 1]
  else none

/-- `PW_TYPE_STRING` の場合。`len` は size_t の `talloc_array_length(vp->vp_strvalue) - 1`。 -/
def verifyString (vp : ValuePair) (d : TallocArray) : Option (List VerifyEvent) :=
  if d.name ≠ "char" then some (typeCheckFailed vp "char")
  else if sizeSub d.size 1 < vp.length then
    some [.perror ("VALUE_PAIR " ++ vp.name ++ " length " ++ String.mk (decimal vp.length) ++
      " is too small for char buffer length " ++ String.mk (decimal (sizeSub d.size 1))), .exit 1]
  else if d.mem vp.length ≠ '\x00' then
    some [.perror ("VALUE_PAIR " ++ vp.name ++ " buffer not \\0 terminated"), .exit 1]
  else none

/-- `fr_verify_vp(vp)`。`none` は戻ること、`some evs` は `evs` を起こしてプロセスが終わること。 -/
def frVerifyVp (vp : ValuePair) : Option (List VerifyEvent) :=
  if vp.chunk ≠ "VALUE_PAIR" then some [.typeAbort "VALUE_PAIR"]
  else
    match vp.data, vp.type with
    | none, _ => none
    | some d, .octets | some d, .tlv => verifyOctets vp d
    | some d, .string => verifyString vp d
    | some _, .other => none

/-! ## `fr_verify_list` -/

/-- 親が違うときに起こす事：`fr_perror`、`expected` と（NULL でなければ）親の talloc の報告、`assert(0)`。
`ctxName` は `talloc_get_name`。 -/
def parentMismatch (ctxName : Nat → String) (expected : Nat) (vp : ValuePair) : List VerifyEvent :=
  [.perror ("Expected VALUE_PAIR (" ++ vp.name ++ ") to be parented by " ++ fmtPtr (some expected) ++ " (" ++
      ctxName expected ++ "), but parented by " ++ fmtPtr vp.parent ++ " (" ++
      (vp.parent.map ctxName).getD "NULL" ++ ")"),
    .tallocReport expected] ++ (vp.parent.map VerifyEvent.tallocReport).toList ++ [.assertAbort]

/-- `fr_verify_list(expected, vps)`。カーソルは列を先頭から順にたどる。`expected` の `none` は NULL。 -/
def frVerifyList (ctxName : Nat → String) (expected : Option Nat) :
    List ValuePair → Option (List VerifyEvent)
  | [] => none
  | vp :: vps =>
      match frVerifyVp vp, expected with
      | some evs, _ => some evs
      | none, some e =>
          if vp.parent ≠ some e then some (parentMismatch ctxName e vp) else frVerifyList ctxName expected vps
      | none, none => frVerifyList ctxName expected vps

/-! ## 正しい `VALUE_PAIR` -/

/-- 型 `t` の値の緩衝の正しさ：`octets` と `tlv` は `uint8_t` の配列に長さが収まり、`string` は `char` の配列で、
長さの位置の NUL までが配列の中にある。 -/
def DataOk : PwType → TallocArray → Nat → Prop
  | .octets, d, len | .tlv, d, len => d.name = "uint8_t" ∧ len ≤ d.size
  | .string, d, len => d.name = "char" ∧ len < d.size ∧ d.mem len = '\x00'
  | .other, _, _ => True

instance : ∀ t d len, Decidable (DataOk t d len)
  | .octets, d, len | .tlv, d, len => inferInstanceAs (Decidable (d.name = "uint8_t" ∧ len ≤ d.size))
  | .string, d, len => inferInstanceAs (Decidable (d.name = "char" ∧ len < d.size ∧ d.mem len = '\x00'))
  | .other, _, _ => inferInstanceAs (Decidable True)

/-- 正しい `VALUE_PAIR`：`vp` は `VALUE_PAIR` の塊で、値の緩衝があればそれは正しい。 -/
def WellFormed (vp : ValuePair) : Prop :=
  vp.chunk = "VALUE_PAIR" ∧ ∀ d ∈ vp.data, DataOk vp.type d vp.length

instance (vp : ValuePair) : Decidable (WellFormed vp) :=
  inferInstanceAs (Decidable (vp.chunk = "VALUE_PAIR" ∧ ∀ d ∈ vp.data, DataOk vp.type d vp.length))

/-- 空の `char` の緩衝を持つ文字列で、緩衝の後ろの `vp->length` 番目のバイトが NUL のもの。 -/
def EmptyStringRead (vp : ValuePair) : Prop :=
  vp.chunk = "VALUE_PAIR" ∧ vp.type = .string ∧
    ∃ d ∈ vp.data, d.name = "char" ∧ d.size = 0 ∧ d.mem vp.length = '\x00'

/-- `fr_verify_list` の一つの要素の検査が通る：`fr_verify_vp` が戻り、`expected` が NULL でなければ親がそれである。 -/
def PairPasses (expected : Option Nat) (vp : ValuePair) : Prop :=
  frVerifyVp vp = none ∧ ∀ e ∈ expected, vp.parent = some e

instance (expected : Option Nat) (vp : ValuePair) : Decidable (PairPasses expected vp) :=
  inferInstanceAs (Decidable (frVerifyVp vp = none ∧ ∀ e ∈ expected, vp.parent = some e))

/-! ## 一つの `VALUE_PAIR` -/

section Pair

variable {vp : ValuePair} {d : TallocArray}

theorem verifyOctets_eq_none_iff : verifyOctets vp d = none ↔ d.name = "uint8_t" ∧ vp.length ≤ d.size := by
  unfold verifyOctets
  by_cases h1 : d.name = "uint8_t"
  · by_cases h2 : d.size < vp.length
    · simp [h1, h2]
    · simp [h1, h2]; omega
  · simp [h1]

theorem sizeSub_one_lt_length_iff : sizeSub d.size 1 < vp.length ↔ 0 < d.size ∧ d.size ≤ vp.length := by
  have := vp.length_le
  rw [sizeSub_one d.size_le]
  split <;> omega

theorem verifyString_eq_none_iff :
    verifyString vp d = none ↔ d.name = "char" ∧ (d.size = 0 ∨ vp.length < d.size) ∧ d.mem vp.length = '\x00' := by
  unfold verifyString
  by_cases h1 : d.name = "char"
  · by_cases h2 : sizeSub d.size 1 < vp.length
    · have := sizeSub_one_lt_length_iff.mp h2
      simp [h1, h2]; omega
    · have := mt sizeSub_one_lt_length_iff.mpr h2
      by_cases h3 : d.mem vp.length = '\x00'
      · simp [h1, h2, h3]; omega
      · simp [h1, h2, h3]
  · simp [h1]

theorem frVerifyVp_string (hc : vp.chunk = "VALUE_PAIR") (ht : vp.type = .string) (hd : vp.data = some d) :
    frVerifyVp vp = verifyString vp d := by
  unfold frVerifyVp
  rw [if_neg (not_not_intro hc), hd, ht]

end Pair

/-- `fr_verify_vp` が戻るのは、`vp` が正しいときと、空の `char` の緩衝の後ろの `vp->length` 番目のバイトが NUL の
ときだけである。 -/
theorem frVerifyVp_eq_none_iff (vp : ValuePair) : frVerifyVp vp = none ↔ WellFormed vp ∨ EmptyStringRead vp := by
  unfold frVerifyVp WellFormed EmptyStringRead
  by_cases hc : vp.chunk = "VALUE_PAIR"
  · rw [if_neg (not_not_intro hc)]
    rcases hd : vp.data with _ | d
    · simp [hc]
    · rcases ht : vp.type with _ | _ | _ | _
      · simp [verifyOctets_eq_none_iff, hc, DataOk]
      · simp [verifyOctets_eq_none_iff, hc, DataOk]
      · simp [verifyString_eq_none_iff, hc, DataOk]; tauto
      · simp [hc, DataOk]
  · simp [hc]

/-- 空の `char` の緩衝では、`fr_verify_vp` は長さを調べず、戻るかどうかは緩衝の後ろの `vp->length` 番目の
バイトだけで決まる。その `vp` は正しくない。 -/
theorem frVerifyVp_empty_string (vp : ValuePair) (d : TallocArray) (hc : vp.chunk = "VALUE_PAIR")
    (ht : vp.type = .string) (hd : vp.data = some d) (hn : d.name = "char") (h0 : d.size = 0) :
    (frVerifyVp vp = none ↔ d.mem vp.length = '\x00') ∧ ¬WellFormed vp := by
  refine ⟨by rw [frVerifyVp_string hc ht hd, verifyString_eq_none_iff]; simp [hn, h0], fun h => ?_⟩
  have hok : DataOk .string d vp.length := ht ▸ h.2 d hd
  exact absurd hok.2.1 (by omega)

theorem frVerifyVp_empty_string_nul :
    let d : TallocArray := ⟨"char", 0, by decide, fun _ => '\x00'⟩
    let vp : ValuePair := ⟨"VALUE_PAIR", "User-Name", .string, some d, 4, by decide, none⟩
    vp.chunk = "VALUE_PAIR" ∧ vp.type = .string ∧ vp.data = some d ∧ d.name = "char" ∧ d.size = 0 ∧
      (frVerifyVp vp = none ↔ d.mem vp.length = '\x00') ∧ ¬WellFormed vp :=
  ⟨rfl, rfl, rfl, rfl, rfl, frVerifyVp_empty_string _ _ rfl rfl rfl rfl rfl⟩

/-! ## 列の検査 -/

section List

variable {ctxName : Nat → String} {expected : Option Nat} {vp : ValuePair}

theorem frVerifyList_cons_of_passes (h : PairPasses expected vp) (vps : List ValuePair) :
    frVerifyList ctxName expected (vp :: vps) = frVerifyList ctxName expected vps := by
  obtain ⟨h1, h2⟩ := h
  cases expected with
  | none => simp [frVerifyList, h1]
  | some e => simp [frVerifyList, h1, h2 e rfl]

theorem frVerifyList_cons_of_not_passes (h : ¬PairPasses expected vp) :
    ∃ evs, ∀ vps, frVerifyList ctxName expected (vp :: vps) = some evs := by
  cases hv : frVerifyVp vp with
  | some evs => exact ⟨evs, fun _ => by simp [frVerifyList, hv]⟩
  | none =>
      cases expected with
      | none => exact absurd ⟨hv, fun _ h => by cases h⟩ h
      | some e =>
          have hp : vp.parent ≠ some e := fun hp => h ⟨hv, fun _ he => by cases he; exact hp⟩
          exact ⟨parentMismatch ctxName e vp, fun _ => by simp [frVerifyList, hv, hp]⟩

end List

/-- `fr_verify_list` が戻るのは、列のどの要素も検査が通るときである。 -/
theorem frVerifyList_eq_none_iff (ctxName : Nat → String) (expected : Option Nat) (vps : List ValuePair) :
    frVerifyList ctxName expected vps = none ↔ ∀ vp ∈ vps, PairPasses expected vp := by
  induction vps with
  | nil => simp [frVerifyList]
  | cons vp vps ih =>
      by_cases h : PairPasses expected vp
      · rw [frVerifyList_cons_of_passes h, ih]
        simp [h]
      · obtain ⟨evs, hevs⟩ := @frVerifyList_cons_of_not_passes ctxName _ _ h
        rw [hevs]
        simp [h]

/-- 列の検査の結果は、最初に通らない要素だけで決まる：その前の要素は何も起こさず、その後の要素は読まれない。 -/
theorem frVerifyList_first_failure (ctxName : Nat → String) (expected : Option Nat) {pre : List ValuePair}
    {vp : ValuePair} (hpre : ∀ v ∈ pre, PairPasses expected v) (hvp : ¬PairPasses expected vp)
    (post : List ValuePair) :
    frVerifyList ctxName expected (pre ++ vp :: post) = frVerifyList ctxName expected [vp] ∧
      frVerifyList ctxName expected [vp] ≠ none := by
  obtain ⟨evs, hevs⟩ := @frVerifyList_cons_of_not_passes ctxName _ _ hvp
  refine ⟨?_, by rw [hevs]; exact Option.some_ne_none _⟩
  induction pre with
  | nil => rw [List.nil_append, hevs, hevs]
  | cons v pre ih =>
      rw [List.cons_append, frVerifyList_cons_of_passes (hpre v (List.mem_cons_self _ _)),
        ih fun w hw => hpre w (List.mem_cons_of_mem _ hw)]

theorem frVerifyList_first_failure_parent :
    let good : ValuePair := ⟨"VALUE_PAIR", "User-Name", .other, none, 0, by decide, some 1⟩
    let stray : ValuePair := ⟨"VALUE_PAIR", "Reply-Message", .other, none, 0, by decide, some 2⟩
    (∀ v ∈ [good], PairPasses (some 1) v) ∧ ¬PairPasses (some 1) stray ∧
      frVerifyList (fun _ => "request") (some 1) ([good] ++ stray :: [good]) =
        frVerifyList (fun _ => "request") (some 1) [stray] ∧
      frVerifyList (fun _ => "request") (some 1) [stray] ≠ none :=
  ⟨by decide, by decide, frVerifyList_first_failure (fun _ => "request") (some 1) (by decide) (by decide) _⟩

end FreeRadiusDebug
