import DatabaseMod.OrmStatementReading

/-!
# Pages of a result

A statement that ends with a limit, or with a limit and an offset, denotes that part of the rows
of the statement before the clause. The rows of a statement without one are those of the database.
-/

namespace DatabaseMod.OrmPaging
open SqlTokens (Text)
open OrmModel OrmStatements

/-! ### The clause at the end of a statement -/

/-- A text that ends with a keyword and a number: what is before them, and the number. -/
def endsWith (keyword sql : Text) : Option (Text × ℕ) :=
  let before := sql.rdropWhile Char.isDigit
  let digits := sql.rtakeWhile Char.isDigit
  if digits ≠ [] ∧ keyword <:+ before then
    some (before.take (before.length - keyword.length), Nat.ofDigitChars 10 digits 0)
  else none

/-- The text before the clause, the limit and the offset. -/
def splitClause (sql : Text) : Option (Text × ℕ × ℕ) :=
  match endsWith " LIMIT ".toList sql with
  | some (body, n) => some (body, n, 0)
  | none =>
    (endsWith " OFFSET ".toList sql).bind fun offset =>
      (endsWith " LIMIT ".toList offset.1).map fun limit => (limit.1, limit.2, offset.2)

theorem digits_at_end {x digits : Text} (hx : x.getLast?.any Char.isDigit = false)
    (hdigits : ∀ c ∈ digits, c.isDigit = true) :
    (x ++ digits).rdropWhile Char.isDigit = x ∧ (x ++ digits).rtakeWhile Char.isDigit = digits := by
  induction digits using List.reverseRecOn with
  | nil =>
    rw [List.append_nil, List.rdropWhile_eq_self_iff, List.rtakeWhile_eq_nil_iff]
    have hlast (hne : x ≠ []) : ¬ (x.getLast hne).isDigit = true := by
      rw [List.getLast?_eq_some_getLast hne, Option.any_some] at hx
      rw [hx]
      exact Bool.false_ne_true
    exact ⟨hlast, hlast⟩
  | append_singleton digits c ih =>
    obtain ⟨hdrop, htake⟩ := ih fun d hd => hdigits d (List.mem_append_left _ hd)
    have hc : c.isDigit = true := hdigits c (by simp)
    rw [← List.append_assoc, List.rdropWhile_concat_pos _ _ _ hc,
      List.rtakeWhile_concat_pos _ _ _ hc, hdrop, htake]
    exact ⟨rfl, rfl⟩

theorem isDigit_toDigits (n : ℕ) : ∀ c ∈ Nat.toDigits 10 n, c.isDigit = true :=
  fun _ hc => Nat.isDigit_of_mem_toDigits (by decide) (le_refl 10) hc

theorem endsWith_append {keyword : Text} (hkeyword : keyword.getLast?.any Char.isDigit = false)
    (hne : keyword ≠ []) (body : Text) (n : ℕ) :
    endsWith keyword (body ++ (keyword ++ Nat.toDigits 10 n)) = some (body, n) := by
  have hlast : (body ++ keyword).getLast?.any Char.isDigit = false := by
    rwa [List.getLast?_append_of_ne_nil _ hne]
  obtain ⟨hdrop, htake⟩ := digits_at_end hlast (isDigit_toDigits n)
  rw [endsWith, ← List.append_assoc, hdrop, htake,
    if_pos ⟨by simp, List.suffix_append _ _⟩, Nat.ofDigitChars_ten_toDigits]
  simp

/-- The number stands behind another keyword. -/
theorem endsWith_other {keyword other : Text} (hother : other.getLast?.any Char.isDigit = false)
    (hne : other ≠ []) (h : ¬ keyword <:+ other) (h' : ¬ other <:+ keyword) (body : Text) (n : ℕ) :
    endsWith keyword (body ++ (other ++ Nat.toDigits 10 n)) = none := by
  have hlast : (body ++ other).getLast?.any Char.isDigit = false := by
    rwa [List.getLast?_append_of_ne_nil _ hne]
  obtain ⟨hdrop, -⟩ := digits_at_end hlast (isDigit_toDigits n)
  rw [endsWith, ← List.append_assoc, hdrop, if_neg]
  rintro ⟨-, hsuffix⟩
  exact (List.suffix_or_suffix_of_suffix hsuffix (List.suffix_append _ _)).elim h h'

theorem endsWith_length {keyword sql : Text} {r : Text × ℕ} (h : endsWith keyword sql = some r) :
    r.1.length < sql.length := by
  unfold endsWith at h
  dsimp only at h
  split_ifs at h with hdigits
  obtain rfl := Option.some.inj h
  have hlength := congrArg List.length (List.rdropWhile_append_rtakeWhile (p := Char.isDigit) (l := sql))
  have hpos := List.length_pos_iff.mpr hdigits.1
  rw [List.length_append] at hlength
  rw [List.length_take]
  omega

theorem splitClause_length {sql : Text} {r : Text × ℕ × ℕ} (h : splitClause sql = some r) :
    r.1.length < sql.length := by
  unfold splitClause at h
  split at h
  next body n hlimit =>
    obtain rfl := Option.some.inj h
    exact endsWith_length hlimit
  next =>
    obtain ⟨offset, hoffset, h⟩ := Option.bind_eq_some_iff.mp h
    obtain ⟨limit, hlimit, rfl⟩ := Option.map_eq_some_iff.mp h
    exact (endsWith_length hlimit).trans (endsWith_length hoffset)

theorem splitClause_limitClause {limit : ℤ} (hlimit : 0 < limit) (offset : ℤ) (body : Text) :
    splitClause (body ++ limitClause limit offset) = some (body, limit.toNat, offset.toNat) := by
  unfold limitClause
  rw [if_pos hlimit]
  split_ifs with hoffset
  · have hother : endsWith " LIMIT ".toList (body ++ (" LIMIT ".toList ++
        Nat.toDigits 10 limit.toNat) ++ (" OFFSET ".toList ++ Nat.toDigits 10 offset.toNat)) = none :=
      endsWith_other (by decide) (by decide) (by decide) (by decide) _ _
    rw [List.append_assoc] at hother
    rw [splitClause, hother]
    dsimp only
    rw [← List.append_assoc body, endsWith_append (by decide) (by decide), Option.bind_some,
      endsWith_append (by decide) (by decide)]
    rfl
  · have hnone : offset.toNat = 0 := by omega
    rw [List.append_nil, splitClause, endsWith_append (by decide) (by decide), hnone]

/-! ### Rows -/

/-- The rows of a statement; `rows` answers those without a clause. -/
def answer {α : Type*} (rows : Text → List α) (sql : Text) : List α :=
  match _hsplit : splitClause sql with
  | some r => ((answer rows r.1).drop r.2.2).take r.2.1
  | none => rows sql
termination_by sql.length
decreasing_by exact splitClause_length _hsplit

section

variable {α : Type*} (rows : Text → List α)

theorem answer_limitClause {limit : ℤ} (hlimit : 0 < limit) (offset : ℤ) (body : Text) :
    answer rows (body ++ limitClause limit offset) =
      ((answer rows body).drop offset.toNat).take limit.toNat := by
  rw [answer, splitClause_limitClause hlimit]

theorem answer_unlimited {limit : ℤ} (hlimit : ¬ 0 < limit) (offset : ℤ) (body : Text) :
    answer rows (body ++ limitClause limit offset) = answer rows body := by
  rw [limitClause, if_neg hlimit, List.append_nil]

/-! ### Pages -/

/-- What the options ask for: without a limit all rows from the offset on. -/
def page (limit offset : ℤ) (whole : List α) : List α :=
  if limit = 0 then whole.drop offset.toNat else (whole.drop offset.toNat).take limit.toNat

theorem page_eq_self_iff {offset : ℤ} (hoffset : 0 ≤ offset) (whole : List α) :
    whole = page 0 offset whole ↔ offset = 0 ∨ whole = [] := by
  rw [page, if_pos rfl]
  constructor
  · intro h
    have hlength := congrArg List.length h
    rw [List.length_drop] at hlength
    rw [← List.length_eq_zero_iff]
    omega
  · rintro (rfl | rfl)
    · rfl
    · rw [List.drop_nil]

theorem pages_eq_take {size : ℕ} (hsize : 0 < size) (count : ℕ) (whole : List α) :
    (List.range count).flatMap (fun i => page size (i * size : ℕ) whole) =
      whole.take (count * size) := by
  have hpage (i : ℕ) : page size (i * size : ℕ) whole = (whole.drop (i * size)).take size := by
    rw [page, if_neg (by omega), Int.toNat_natCast, Int.toNat_natCast]
  induction count with
  | zero => rw [Nat.zero_mul, List.take_zero, List.range_zero, List.flatMap_nil]
  | succ count ih =>
    rw [List.range_succ, List.flatMap_append, ih, List.flatMap_singleton, hpage, Nat.succ_mul,
      List.take_add]

/-! ### The rows of the generated queries -/

variable (d : TOrmDialect) (m : TOrmModel) (sameName : Text → Text → Bool) (whereSql : Text)
variable (orderBy : List TOrmOrderItem)

/-- What `FindWhere` finds for the options, and `FindAll` with an empty condition. -/
def found (limit offset : ℤ) : Except TOrmException (List α) :=
  (buildFindWhereSql d m sameName whereSql orderBy limit offset).map (answer rows)

variable {whole : List α} (hwhole : found rows d m sameName whereSql orderBy 0 0 = .ok whole)
include hwhole

/-- The clause follows the text of the query without one. -/
theorem found_eq (limit offset : ℤ) : ∃ body, answer rows body = whole ∧
    found rows d m sameName whereSql orderBy limit offset =
      .ok (answer rows (body ++ limitClause limit offset)) := by
  unfold found buildFindWhereSql at hwhole ⊢
  cases horder : orderClause d m sameName orderBy with
  | error e =>
    rw [horder] at hwhole
    cases hwhole
  | ok order =>
    rw [horder] at hwhole
    refine ⟨_, ?_, rfl⟩
    have hbody := Except.ok.inj hwhole
    rwa [answer_unlimited rows (lt_irrefl 0)] at hbody

theorem found_limited {limit : ℤ} (hlimit : 0 < limit) (offset : ℤ) :
    found rows d m sameName whereSql orderBy limit offset = .ok (page limit offset whole) := by
  obtain ⟨body, hbody, hfound⟩ := found_eq rows d m sameName whereSql orderBy hwhole limit offset
  rw [hfound, answer_limitClause rows hlimit, hbody, page, if_neg hlimit.ne']

theorem found_unlimited (offset : ℤ) :
    found rows d m sameName whereSql orderBy 0 offset = .ok whole := by
  obtain ⟨body, hbody, hfound⟩ := found_eq rows d m sameName whereSql orderBy hwhole 0 offset
  rw [hfound, answer_unlimited rows (lt_irrefl 0), hbody]

/-- A query finds the page that its options ask for if and only if it has a limit or no offset,
or there are no rows. Pages of one size make up the whole; a first page and an unlimited query for
the rest do not. -/
theorem pages_found_iff {limit offset : ℤ} (hlimit : 0 ≤ limit) (hoffset : 0 ≤ offset) {size : ℕ}
    (hsize : 0 < size) (count : ℕ) :
    (found rows d m sameName whereSql orderBy limit offset = .ok (page limit offset whole) ↔
      0 < limit ∨ offset = 0 ∨ whole = []) ∧
    (∃ pages, (List.range count).mapM
        (fun i => found rows d m sameName whereSql orderBy size (i * size : ℕ)) = .ok pages ∧
      pages.flatten = whole.take (count * size)) ∧
    ∃ first rest, found rows d m sameName whereSql orderBy size 0 = .ok first ∧
      found rows d m sameName whereSql orderBy 0 size = .ok rest ∧
      (first ++ rest = whole ↔ whole = []) := by
  refine ⟨?_, ⟨(List.range count).map fun i => page size (i * size : ℕ) whole, ?_, ?_⟩,
    whole.take size, whole, ?_, ?_, ?_⟩
  · rcases hlimit.lt_or_eq with hpos | rfl
    · exact iff_of_true (found_limited rows d m sameName whereSql orderBy hwhole hpos offset)
        (.inl hpos)
    · rw [found_unlimited rows d m sameName whereSql orderBy hwhole, Except.ok.injEq,
        page_eq_self_iff hoffset]
      simp
  · simp only [found_limited rows d m sameName whereSql orderBy hwhole (Int.natCast_pos.mpr hsize)]
    exact List.mapM_pure
  · rw [← List.flatMap_def, pages_eq_take hsize]
  · rw [found_limited rows d m sameName whereSql orderBy hwhole (Int.natCast_pos.mpr hsize), page,
      if_neg (by omega)]
    rfl
  · exact found_unlimited rows d m sameName whereSql orderBy hwhole size
  · rw [List.append_left_eq_self, List.take_eq_nil_iff]
    exact or_iff_right hsize.ne'

end

/-- The rows of a table with three of them. -/
def threeRows (_ : Text) : List ℕ := [1, 2, 3]

/-- A model of one column. -/
def oneColumn : TOrmModel :=
  ⟨⟨[], [], []⟩, "t".toList, [buildField .lowerCase ⟨"id".toList, .longTypeId, []⟩], [], none⟩

theorem three_rows_found : found threeRows .sqlite oneColumn (· == ·) [] [] 0 0 = .ok [1, 2, 3] := by
  have hplain : splitClause "SELECT \"id\" FROM \"t\"".toList = none := by decide +kernel
  have hfound : found threeRows .sqlite oneColumn (· == ·) [] [] 0 0 =
    .ok (answer threeRows "SELECT \"id\" FROM \"t\"".toList) := rfl
  rw [hfound, answer, hplain]
  rfl

/-- Both pages of two rows, and the rest without a limit. -/
theorem pages_found_iff_three :
    (∃ pages, (List.range 2).mapM
        (fun i => found threeRows .sqlite oneColumn (· == ·) [] [] (2 : ℕ) (i * 2 : ℕ)) =
          .ok pages ∧ pages.flatten = [1, 2, 3]) ∧
      ¬ found threeRows .sqlite oneColumn (· == ·) [] [] 0 1 = .ok [2, 3] := by
  have h := pages_found_iff threeRows .sqlite oneColumn (· == ·) [] [] three_rows_found
    (le_refl 0) zero_le_one two_pos 2
  exact ⟨h.2.1, fun hfound => by simpa using h.1.mp hfound⟩

/-- The first row is skipped in vain: the options ask for no limit. -/
theorem unlimited_offset_ignored :
    found threeRows .sqlite oneColumn (· == ·) [] [] 0 1 = .ok [1, 2, 3] ∧
      page 0 1 [1, 2, 3] = [2, 3] :=
  ⟨found_unlimited threeRows .sqlite oneColumn (· == ·) [] [] three_rows_found 1, rfl⟩

end DatabaseMod.OrmPaging
