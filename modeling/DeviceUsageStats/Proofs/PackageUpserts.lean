import DeviceUsageStats.Sanity.StoredRows

/-! The rows of one package table over flushes of any users: each flush is an upsert, so there is never
more than one row for a user, a bundle name and a uid. -/

namespace DeviceUsageStats
namespace DatabaseState

open PackageLogRow (ident)

variable {d : DatabaseState} {i : IntervalType} {x : ℤ} {p : BundleActivePeriodStats}

abbrev StatsKeyed (p : BundleActivePeriodStats) : Prop := Keyed p.bundleStats

/-- The table is there and has at most one row for a user, a bundle name and a uid. -/
structure OneRowEach (i : IntervalType) (x : ℤ) (d : DatabaseState) : Prop where
  table : x ∈ d.packageTables i
  nodup : (((d.packageTables i).rows x).map ident).Nodup

theorem rows_flushPackageInfo (table : x ∈ d.packageTables i) (keyed : StatsKeyed p)
    (hp : p.beginTime = x) :
    x ∈ (d.flushPackageInfo i p).packageTables i ∧
      ((d.flushPackageInfo i p).packageTables i).rows x =
        Upsert.upsert ident ((d.packageTables i).rows x) (flushedValues p) := by
  rw [Std.TreeMap.mem_iff_isSome_getElem?, Option.isSome_iff_exists] at table ⊢
  obtain ⟨rows, hrows⟩ := table
  have hflush := getElem?_flushPackageInfo d i i p x
  rw [if_pos ⟨rfl, hp.symm⟩, hrows, Option.map_some, flushPackageRows_eq keyed] at hflush
  refine ⟨⟨_, hflush⟩, ?_⟩
  rw [Tables.rows, Tables.rows, hflush, hrows]
  rfl

theorem OneRowEach.flushPackageInfo (h : OneRowEach i x d) (keyed : StatsKeyed p)
    (hp : p.beginTime = x) : OneRowEach i x (d.flushPackageInfo i p) := by
  obtain ⟨htable, hrows⟩ := rows_flushPackageInfo h.table keyed hp
  refine ⟨htable, ?_⟩
  rw [hrows]
  exact Upsert.nodup_upsert h.nodup (nodup_ident_flushedValues keyed)

theorem oneRowEach_flushes {flushes : List BundleActivePeriodStats}
    (keyed : ∀ p ∈ flushes, StatsKeyed p ∧ p.beginTime = x) (h : OneRowEach i x d) :
    OneRowEach i x (flushes.foldl (·.flushPackageInfo i ·) d) := by
  induction flushes generalizing d with
  | nil => exact h
  | cons p flushes ih =>
    obtain ⟨hkeyed, hp⟩ := keyed p List.mem_cons_self
    exact ih (fun q hq => keyed q (List.mem_cons_of_mem _ hq)) (h.flushPackageInfo hkeyed hp)

def isFlushed (p : BundleActivePeriodStats) (row : PackageLogRow) : Bool :=
  p.bundleStats.toList.any fun entry =>
    entry.2.Used ∧ (p.userId, entry.2.bundleName, entry.2.uid) = row.ident

/-- What a flush does to the rows: a used bundle has one row, with its new values, and all other rows are
as they were. -/
structure FlushedInto (p : BundleActivePeriodStats) (rows rows' : List PackageLogRow) : Prop where
  written : ∀ (k : String) (e : BundleActivePackageStats), p.bundleStats[k]? = some e → e.Used →
    rows'.filter (·.ident = (p.userId, e.bundleName, e.uid)) = [packageLogRow p e]
  others : rows'.filter (!isFlushed p ·) = rows.filter (!isFlushed p ·)

theorem flushedInto_upsert {rows : List PackageLogRow} (keyed : StatsKeyed p)
    (hrows : (rows.map ident).Nodup) :
    FlushedInto p rows (Upsert.upsert ident rows (flushedValues p)) where
  written k e hk hused := Upsert.filter_upsert_of_mem hrows (nodup_ident_flushedValues keyed)
    (mem_flushedValues.2 ⟨k, e, hk, hused, rfl⟩)
  others := by
    refine @Upsert.filter_upsert_of_not_mem _ _ _ ident (fun id =>
      !p.bundleStats.toList.any fun entry =>
        entry.2.Used ∧ (p.userId, entry.2.bundleName, entry.2.uid) = id) _ _ fun v hv => ?_
    obtain ⟨k, e, hk, hused, rfl⟩ := mem_flushedValues.1 hv
    rw [Bool.not_eq_false', List.any_eq_true]
    exact ⟨(k, e), Std.TreeMap.mem_toList_iff_getElem?_eq_some.2 hk, decide_eq_true ⟨hused, rfl⟩⟩

/-- After every sequence of flushes of one table, empty at first, there is at most one row for a user, a
bundle name and a uid. A next flush leaves one row with the new values for each used bundle and all
other rows as they are, and done again it changes nothing. -/
theorem flushes_upsert (empty : (d.packageTables i)[x]? = some [])
    (flushes : List BundleActivePeriodStats)
    (keyed : ∀ q ∈ flushes, StatsKeyed q ∧ q.beginTime = x) :
    ((((flushes.foldl (·.flushPackageInfo i ·) d).packageTables i).rows x).map ident).Nodup ∧
      ∀ p, StatsKeyed p → p.beginTime = x →
        FlushedInto p (((flushes.foldl (·.flushPackageInfo i ·) d).packageTables i).rows x)
          ((((flushes.foldl (·.flushPackageInfo i ·) d).flushPackageInfo i p).packageTables i).rows
            x) ∧
        ((((flushes.foldl (·.flushPackageInfo i ·) d).flushPackageInfo i p).flushPackageInfo i
            p).packageTables i).rows x =
          (((flushes.foldl (·.flushPackageInfo i ·) d).flushPackageInfo i p).packageTables i).rows
            x := by
  have h : OneRowEach i x d := by
    refine ⟨?_, by simp [Tables.rows, empty]⟩
    rw [Std.TreeMap.mem_iff_isSome_getElem?, empty]
    rfl
  have hrun := oneRowEach_flushes keyed h
  refine ⟨hrun.nodup, fun p hkeyed hp => ?_⟩
  obtain ⟨htable, hrows⟩ := rows_flushPackageInfo hrun.table hkeyed hp
  obtain ⟨-, hagain⟩ := rows_flushPackageInfo htable hkeyed hp
  rw [hagain, hrows]
  exact ⟨flushedInto_upsert hkeyed hrun.nodup,
    Upsert.upsert_upsert _ _ (nodup_ident_flushedValues hkeyed)⟩

def mailPeriod (userId front : ℤ) : BundleActivePeriodStats :=
  { userId := userId, beginTime := 1711843200000
    bundleStats := ({} : Std.TreeMap String BundleActivePackageStats).insert
      (getBundleUsageKey "com.example.mail" 20010001)
      { bundleName := "com.example.mail", uid := 20010001, totalInFrontTime := front } }

theorem statsKeyed_mailPeriod (userId front : ℤ) : StatsKeyed (mailPeriod userId front) := by
  intro k e hk
  simp only [mailPeriod, Std.TreeMap.getElem?_insert, Std.compare_eq_iff_eq] at hk
  split_ifs at hk with hkey
  · cases hk
    exact hkey
  · simp at hk

def emptyDay : DatabaseState := createPackageLogTable {} .daily 1711843200000

/-- Two users, and the first one again. -/
theorem flushes_upsert_mail :
    FlushedInto (mailPeriod 100 2000)
      ((([mailPeriod 100 1000, mailPeriod 101 500].foldl (·.flushPackageInfo .daily ·)
        emptyDay).packageTables .daily).rows 1711843200000)
      (((([mailPeriod 100 1000, mailPeriod 101 500].foldl (·.flushPackageInfo .daily ·)
        emptyDay).flushPackageInfo .daily (mailPeriod 100 2000)).packageTables .daily).rows
          1711843200000) := by
  have h := flushes_upsert (d := emptyDay) (i := .daily) (x := 1711843200000) (by decide +kernel)
    [mailPeriod 100 1000, mailPeriod 101 500] (by
      intro q hq
      rcases List.mem_pair.1 hq with rfl | rfl
      · exact ⟨statsKeyed_mailPeriod _ _, rfl⟩
      · exact ⟨statsKeyed_mailPeriod _ _, rfl⟩)
  exact (h.2 _ (statsKeyed_mailPeriod 100 2000) rfl).1

end DatabaseState
end DeviceUsageStats
