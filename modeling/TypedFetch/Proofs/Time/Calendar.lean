import Mathlib.Tactic.Lemma
import TypedFetch.Time.Calendar

/-!
# Dates of days

Every day has a date that exists, whose year is the one in which the day lies
(`isValid_ofDays_iff`).  A cycle of four hundred years has four centuries, a century has groups of
four years, and only the last year of such a group, counted from the first of March, can have a leap
day at its end.
-/

namespace TypedFetch.Time

/-- The place of a day in a cycle of four hundred years: the century, the group of four years in it,
the year in the group and the day in the year, all counted from zero. -/
structure CycleDay where
  /-- The century. -/
  century : Int
  /-- The group of four years. -/
  group : Int
  /-- The year. -/
  year : Int
  /-- The day. -/
  day : Int

namespace CycleDay

/-- The place exists: only a last year has a leap day, and the last year of a century only at the
end of the cycle. -/
structure Exists (d : CycleDay) : Prop where
  century : 0 ≤ d.century ∧ d.century ≤ 3
  group : 0 ≤ d.group ∧ d.group ≤ 24
  year : 0 ≤ d.year ∧ d.year ≤ 3
  day : 0 ≤ d.day ∧ d.day ≤ 365
  leap : d.day = 365 → d.year = 3 ∧ (d.group = 24 → d.century = 3)

/-- The number of days of the cycle that come before. -/
def index (d : CycleDay) : Int :=
  36524 * d.century + 1461 * d.group + 365 * d.year + d.day

/-- The number of years of the cycle that come before. -/
def yearIndex (d : CycleDay) : Int :=
  100 * d.century + 4 * d.group + d.year

lemma exists_index_eq {n : Int} (h : 0 ≤ n) (h' : n < 146097) :
    ∃ d : CycleDay, d.Exists ∧ d.index = n := by
  -- the last day of the cycle is the only one behind four equal centuries
  obtain ⟨c, hc, r, hr, rfl⟩ : ∃ c : Int, (0 ≤ c ∧ c ≤ 3) ∧ ∃ r : Int,
      (0 ≤ r ∧ (r < 36524 ∨ c = 3 ∧ r = 36524)) ∧ n = 36524 * c + r := by
    by_cases hlast : n = 146096
    · exact ⟨3, by omega, 36524, by omega⟩
    · exact ⟨n / 36524, by omega, n % 36524, by omega⟩
  obtain ⟨g, hg, r', hr', rfl⟩ : ∃ g : Int, (0 ≤ g ∧ g ≤ 24) ∧ ∃ r' : Int,
      (0 ≤ r' ∧ r' < 1461) ∧ r = 1461 * g + r' :=
    ⟨r / 1461, by omega, r % 1461, by omega⟩
  obtain ⟨y, hy, day, hday, rfl⟩ : ∃ y : Int, (0 ≤ y ∧ y ≤ 3) ∧ ∃ day : Int,
      (0 ≤ day ∧ (day < 365 ∨ y = 3 ∧ day = 365)) ∧ r' = 365 * y + day := by
    by_cases hlast : r' = 1460
    · exact ⟨3, by omega, 365, by omega⟩
    · exact ⟨r' / 365, by omega, r' % 365, by omega⟩
  refine ⟨⟨c, g, y, day⟩, ⟨hc, hg, hy, ?_, ?_⟩, ?_⟩
  · dsimp only
    omega
  · dsimp only
    omega
  · simp only [index]
    omega

variable {d : CycleDay}

lemma Exists.yearIndex_eq (h : d.Exists) :
    (d.index - d.index / 1460 + d.index / 36524 - d.index / 146096) / 365 = d.yearIndex := by
  obtain ⟨c, g, y, day⟩ := d
  obtain ⟨hc, hg, hy, hday, hleap⟩ := h
  simp only [index, yearIndex] at *
  generalize hindex : 36524 * c + 1461 * g + 365 * y + day = n
  have hcentury : n / 36524 - n / 146096 = c := by
    by_cases hlast : n = 146096
    · subst hlast
      omega
    · have hlow : 36524 * c ≤ n := by omega
      have hhigh : n < 36524 * (c + 1) := by omega
      have hcycle : n / 146096 = 0 := by omega
      omega
  have hgroup : n / 1460 = (24 * c + g + 365 * y + day) / 1460 + (25 * c + g) := by
    have hn : n = 24 * c + g + 365 * y + day + 1460 * (25 * c + g) := by omega
    rw [hn, Int.add_mul_ediv_left _ _ (by decide)]
  -- the last days of a group are counted with the next one
  obtain ⟨t, ht, hyear⟩ : ∃ t, (24 * c + g + 365 * y + day) / 1460 = t ∧
      0 ≤ day - t ∧ day - t < 365 := ⟨_, rfl, by omega⟩
  have hsum : n - n / 1460 + n / 36524 - n / 146096 = day - t + 365 * (100 * c + 4 * g + y) := by
    rw [hgroup, ht]
    generalize n / 36524 = a, n / 146096 = b at hcentury
    omega
  rw [hsum, Int.add_mul_ediv_left _ _ (by decide),
    Int.ediv_eq_zero_of_lt hyear.1 hyear.2, Int.zero_add]

lemma Exists.day_eq (h : d.Exists) :
    d.index - (365 * d.yearIndex + d.yearIndex / 4 - d.yearIndex / 100) = d.day := by
  obtain ⟨hc, hg, hy, -, -⟩ := h
  have hfour : d.yearIndex / 4 = 25 * d.century + d.group := by
    rw [yearIndex]
    omega
  have hhundred : d.yearIndex / 100 = d.century := by
    rw [yearIndex]
    omega
  rw [hfour, hhundred, index, yearIndex]
  omega

/-- A leap day ends a leap year. -/
lemma Exists.isLeap (h : d.Exists) (hday : d.day = 365) (era : Int) :
    isLeap (d.yearIndex + era * 400 + 1) = true := by
  obtain ⟨hyear, hlast⟩ := h.leap hday
  obtain ⟨hc, hg, -, -, -⟩ := h
  simp only [Time.isLeap, yearIndex, hyear, Bool.and_eq_true, Bool.or_eq_true, beq_iff_eq,
    bne_iff_ne]
  by_cases hgroup : d.group = 24
  · have hcentury := hlast hgroup
    omega
  · omega

end CycleDay

/-- The place of a day in the months of a year that begins with the first of March. -/
inductive MarchDay (n : Int) (month day : Nat) : Prop
  | long (hmonth : month ∈ [3, 5, 7, 8, 10, 12]) (hday : 1 ≤ day ∧ day ≤ 31) (hn : 0 ≤ n ∧ n < 306)
  | short (hmonth : month ∈ [4, 6, 9, 11]) (hday : 1 ≤ day ∧ day ≤ 30) (hn : 0 ≤ n ∧ n < 306)
  | january (hmonth : month = 1) (hday : 1 ≤ day ∧ day ≤ 31) (hn : 306 ≤ n)
  | february (hmonth : month = 2) (hday : 1 ≤ day ∧ day + 336 = n)

lemma marchDay {n : Int} (h : 0 ≤ n) (h' : n ≤ 365) {k : Int} (hk : k = (5 * n + 2) / 153) :
    MarchDay n (if k < 10 then k + 3 else k - 9).toNat (n - (153 * k + 2) / 5 + 1).toNat := by
  have hcases : k = 0 ∨ k = 1 ∨ k = 2 ∨ k = 3 ∨ k = 4 ∨ k = 5 ∨ k = 6 ∨ k = 7 ∨ k = 8 ∨ k = 9 ∨
      k = 10 ∨ k = 11 := by omega
  rcases hcases with rfl | rfl | rfl | rfl | rfl | rfl | rfl | rfl | rfl | rfl | rfl | rfl
  · exact .long (by decide) (by omega) (by omega)
  · exact .short (by decide) (by omega) (by omega)
  · exact .long (by decide) (by omega) (by omega)
  · exact .short (by decide) (by omega) (by omega)
  · exact .long (by decide) (by omega) (by omega)
  · exact .long (by decide) (by omega) (by omega)
  · exact .short (by decide) (by omega) (by omega)
  · exact .long (by decide) (by omega) (by omega)
  · exact .short (by decide) (by omega) (by omega)
  · exact .long (by decide) (by omega) (by omega)
  · exact .january rfl (by omega) (by omega)
  · exact .february rfl (by omega)

lemma CycleDay.Exists.index_lt {d : CycleDay} (h : d.Exists) : 0 ≤ d.index ∧ d.index < 146097 := by
  obtain ⟨hc, hg, hy, hday, hleap⟩ := h
  rw [CycleDay.index]
  omega

/-- The date of a day that lies in some cycle. -/
lemma ofDays_eq {days era : Int} {d : CycleDay} (hd : d.Exists)
    (hdays : days + 719468 = 146097 * era + d.index) :
    ∃ month day : Nat, MarchDay d.day month day ∧
      Date.ofDays days =
        ⟨d.yearIndex + era * 400 + (if month ≤ 2 then 1 else 0), month, day⟩ := by
  have hindex := hd.index_lt
  have hera : (days + 719468) / 146097 = era := by omega
  have hrest : (days + 719468) % 146097 = d.index := by omega
  refine ⟨_, _, marchDay hd.day.1 hd.day.2 rfl, ?_⟩
  simp only [Date.ofDays, hera, hrest, hd.yearIndex_eq, hd.day_eq, Date.mk.injEq, and_self,
    and_true]
  congr 2
  rw [eq_iff_iff]
  omega

/-- A date whose day and month exist is valid in the years from 1 to 9999. -/
lemma MarchDay.isValid_iff {n year : Int} {month day : Nat} (h : MarchDay n month day)
    (hn : n ≤ 365) (hleap : n = 365 → isLeap year = true) :
    (Date.mk year month day).isValid = true ↔ 1 ≤ year ∧ year ≤ 9999 := by
  have hmonth : 1 ≤ month ∧ month ≤ 12 ∧ 1 ≤ day ∧ day ≤ monthLength year month := by
    cases h with
    | long hmonth hday =>
      simp only [List.mem_cons, List.not_mem_nil, or_false] at hmonth
      rcases hmonth with rfl | rfl | rfl | rfl | rfl | rfl <;> simp [monthLength, hday]
    | short hmonth hday =>
      simp only [List.mem_cons, List.not_mem_nil, or_false] at hmonth
      rcases hmonth with rfl | rfl | rfl | rfl <;> simp [monthLength, hday]
    | january hmonth hday => simp [monthLength, hmonth, hday]
    | february hmonth hday =>
      subst hmonth
      simp only [monthLength, beq_self_eq_true, if_true]
      split
      · omega
      · next hcommon =>
        have hne : n ≠ 365 := fun heq => hcommon (hleap heq)
        omega
  obtain ⟨hlow, hhigh, hday⟩ := hmonth
  simp [Date.isValid, hlow, hhigh, hday]

lemma MarchDay.month_le_two_iff {n : Int} {month day : Nat} (h : MarchDay n month day) :
    month ≤ 2 ↔ 306 ≤ n := by
  cases h with
  | long hmonth _ hn | short hmonth _ hn =>
    simp only [List.mem_cons, List.not_mem_nil, or_false] at hmonth
    omega
  | january hmonth _ hn => omega
  | february hmonth hday => omega

/-- Every day has a date, which lies in the years from 1 to 9999 exactly if the day does. -/
theorem isValid_ofDays_iff {days : Int} :
    (Date.ofDays days).isValid = true ↔ -719162 ≤ days ∧ days ≤ 2932896 := by
  obtain ⟨d, hd, hindex⟩ := CycleDay.exists_index_eq
    (Int.emod_nonneg (days + 719468) (by decide)) (Int.emod_lt_of_pos _ (by decide))
  have hdays : days + 719468 = 146097 * ((days + 719468) / 146097) + d.index := by
    rw [hindex, Int.mul_ediv_add_emod]
  generalize (days + 719468) / 146097 = era at hdays
  obtain ⟨month, day, hmarch, hdate⟩ := ofDays_eq hd hdays
  have hmonth := hmarch.month_le_two_iff
  rw [hdate, hmarch.isValid_iff hd.day.2 fun hlast => ?_]
  · have hbound := hd.index_lt
    obtain ⟨hc, hg, hy, hday, -⟩ := hd
    have hfirst : 306 ≤ d.index ↔ 1 ≤ d.yearIndex + if month ≤ 2 then 1 else 0 := by
      simp only [CycleDay.index, CycleDay.yearIndex]
      split <;> omega
    have hlast : d.index ≤ 146036 ↔ d.yearIndex + (if month ≤ 2 then 1 else 0) ≤ 399 := by
      simp only [CycleDay.index, CycleDay.yearIndex]
      split <;> omega
    have hyears : 0 ≤ d.yearIndex ∧ d.yearIndex ≤ 399 := by
      simp only [CycleDay.yearIndex]
      omega
    have hmarch : (0 : Int) ≤ (if month ≤ 2 then 1 else 0) ∧
        (if month ≤ 2 then 1 else 0) ≤ (1 : Int) := by
      split <;> decide
    generalize (if month ≤ 2 then 1 else 0 : Int) = march at hfirst hlast hmarch ⊢
    -- only the first and the last cycle are not within the years as a whole
    obtain hera | rfl | hera | rfl | hera : era < 0 ∨ era = 0 ∨ (0 < era ∧ era < 24) ∨ era = 24 ∨
        24 < era := by omega
    all_goals omega
  · rw [if_pos (hmonth.2 (by omega))]
    exact hd.isLeap hlast era

end TypedFetch.Time
