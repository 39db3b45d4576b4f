import Mathlib.Tactic

/-! Time-zone rules. A rule gives each instant the offset of the local clock and whether daylight saving
time is in force. The way back from a reading of the clock to an instant presumes the one or the other: it
finds an instant of that kind where the reading has one, and is left open where it has none. Instants,
readings and offsets are seconds. -/

structure ZoneRule where
  offset : ℤ → ℤ
  isDst : ℤ → Bool
  /-- the offset that is presumed for a reading -/
  presumed : Bool → ℤ → ℤ
  found : ∀ s,
    offset (s + offset s - presumed (isDst s) (s + offset s)) =
        presumed (isDst s) (s + offset s) ∧
      isDst (s + offset s - presumed (isDst s) (s + offset s)) = isDst s
  offset_le : ∀ s, |offset s| ≤ 90000
  presumed_le : ∀ b u, |presumed b u| ≤ 90000

namespace ZoneRule

variable (z : ZoneRule)

def reading (s : ℤ) : ℤ := s + z.offset s

theorem le_reading (s : ℤ) : s - 90000 ≤ z.reading s ∧ z.reading s ≤ s + 90000 := by
  have h := abs_le.1 (z.offset_le s)
  unfold reading
  omega

def twoOffsets (summer : ℤ → Bool) (standard daylight : ℤ) (hs : |standard| ≤ 90000)
    (hd : |daylight| ≤ 90000) : ZoneRule where
  offset s := if summer s then daylight else standard
  isDst := summer
  presumed b _ := if b then daylight else standard
  found s := by rw [add_sub_cancel_right]; exact ⟨rfl, rfl⟩
  offset_le s := by split_ifs <;> assumption
  presumed_le b _ := by split_ifs <;> assumption

/-! ### From a reading back to an instant -/

variable {z} {b : Bool} {u m : ℤ}

theorem reading_sub_presumed (h : ∃ d, z.isDst d = b ∧ z.reading d = u) :
    z.isDst (u - z.presumed b u) = b ∧ z.reading (u - z.presumed b u) = u := by
  obtain ⟨d, rfl, rfl⟩ := h
  obtain ⟨hoffset, hflag⟩ := z.found d
  refine ⟨hflag, ?_⟩
  change _ + z.offset _ = _
  rw [reading, hoffset, sub_add_cancel]

variable (z b u m) in
/-- `m` is the one instant of the kind at which the clock shows the reading. -/
structure ReadOnlyAt : Prop where
  flag : z.isDst m = b
  reads : z.reading m = u
  only : ∀ d, z.isDst d = b → z.reading d = u → d = m

theorem ReadOnlyAt.sub_presumed (h : z.ReadOnlyAt b u m) : u - z.presumed b u = m := by
  obtain ⟨hflag, hreads⟩ := reading_sub_presumed ⟨m, h.flag, h.reads⟩
  exact h.only _ hflag hreads

theorem eq_of_twoOffsets {summer : ℤ → Bool} {standard daylight : ℤ} {hs : |standard| ≤ 90000}
    {hd : |daylight| ≤ 90000} {d d' : ℤ}
    (hflag : (twoOffsets summer standard daylight hs hd).isDst d =
      (twoOffsets summer standard daylight hs hd).isDst d')
    (hreads : (twoOffsets summer standard daylight hs hd).reading d =
      (twoOffsets summer standard daylight hs hd).reading d') : d = d' := by
  unfold reading twoOffsets at *
  simp only at hflag hreads
  rw [hflag] at hreads
  exact add_right_cancel hreads

/-! ### Truncation to the start of a period -/

variable (z) (start built : ℤ → ℤ) (Dom : ℤ → Prop)

/-- The start of the period of a reading, taken back to an instant as if the flag of the instant held
there and the offset were that of another reading. -/
def truncated (s : ℤ) : ℤ :=
  start (z.reading s) - z.presumed (z.isDst s) (built (z.reading s))

/-- What a truncation to the start of a period should do to the instants of a kind. -/
structure TruncatesRight : Prop where
  midnight : ∀ s, Dom s → z.reading (z.truncated start built s) = start (z.reading s)
  le : ∀ s, Dom s → z.truncated start built s ≤ s
  again : ∀ s, Dom s →
    z.truncated start built (z.truncated start built s) = z.truncated start built s
  mono : ∀ s s', Dom s → Dom s' → s ≤ s' → z.truncated start built s ≤ z.truncated start built s'
  same : ∀ s s', Dom s → Dom s' → start (z.reading s) = start (z.reading s') →
    z.truncated start built s = z.truncated start built s'

/-- A period begins at `m`: the clock comes to its start there, and whenever it is in the period later, the
reading to be taken back is one that instants of that flag show, all with the offset of `m`. -/
structure BeginsAt (m : ℤ) : Prop where
  reads : start (z.reading m) = z.reading m
  earlier : start (z.reading (m - 1)) < z.reading m
  shown : ∀ s, m ≤ s → start (z.reading s) = z.reading m →
    ∃ d, z.isDst d = z.isDst s ∧ z.reading d = built (z.reading s)
  offsets : ∀ s, m ≤ s → start (z.reading s) = z.reading m → ∀ d, z.isDst d = z.isDst s →
    z.reading d = built (z.reading s) → z.offset d = z.offset m

/-- The clock is not set back into an earlier period, and every period has a beginning. -/
structure PeriodsBegin : Prop where
  forward : ∀ s s', Dom s → s ≤ s' → start (z.reading s) ≤ start (z.reading s')
  begins : ∀ s, Dom s → ∃ m, z.BeginsAt start built m ∧ z.reading m = start (z.reading s)

variable {z start built Dom} {s s' : ℤ}

theorem BeginsAt.truncated_eq (h : z.BeginsAt start built m) (hle : m ≤ s)
    (hsame : start (z.reading s) = z.reading m) : z.truncated start built s = m := by
  obtain ⟨hflag, hreads⟩ := reading_sub_presumed (h.shown s hle hsame)
  have hoffset := h.offsets s hle hsame _ hflag hreads
  unfold truncated
  rw [hsame]
  unfold reading at hreads hoffset ⊢
  omega

theorem PeriodsBegin.le_of_same (h : z.PeriodsBegin start built Dom) (hm : z.BeginsAt start built m)
    (hs : Dom s) (hsame : start (z.reading s) = z.reading m) : m ≤ s := by
  by_contra hlt
  have hforward := h.forward s (m - 1) hs (by omega)
  have hearlier := hm.earlier
  omega

/-- A truncation is right where the periods begin, if later readings are of the kind too. -/
theorem PeriodsBegin.truncatesRight (h : z.PeriodsBegin start built Dom) (hmono : Monotone start)
    (hdom : ∀ s s', Dom s → z.reading s ≤ z.reading s' → Dom s') :
    z.TruncatesRight start built Dom := by
  have htruncated : ∀ {s m}, Dom s → z.BeginsAt start built m → start (z.reading s) = z.reading m →
      z.truncated start built s = m := fun hs hm hsame =>
    hm.truncated_eq (h.le_of_same hm hs hsame) hsame
  refine ⟨fun s hs => ?_, fun s hs => ?_, fun s hs => ?_, fun s s' hs hs' hle => ?_,
    fun s s' hs hs' hsame => ?_⟩
  · obtain ⟨m, hm, hreads⟩ := h.begins s hs
    rw [htruncated hs hm hreads.symm, hreads]
  · obtain ⟨m, hm, hreads⟩ := h.begins s hs
    rw [htruncated hs hm hreads.symm]
    exact h.le_of_same hm hs hreads.symm
  · obtain ⟨m, hm, hreads⟩ := h.begins s hs
    rw [htruncated hs hm hreads.symm]
    exact hm.truncated_eq le_rfl hm.reads
  · obtain ⟨m, hm, hreads⟩ := h.begins s hs
    obtain ⟨m', hm', hreads'⟩ := h.begins s' hs'
    rw [htruncated hs hm hreads.symm, htruncated hs' hm' hreads'.symm]
    have hms := h.le_of_same hm hs hreads.symm
    rcases (h.forward s s' hs hle).eq_or_lt with hsame | hlater
    · have hsame' : start (z.reading s') = z.reading m := hsame.symm.trans hreads.symm
      rw [← htruncated hs' hm hsame', htruncated hs' hm' hreads'.symm]
    · -- the later period begins with a later reading, so the clock may not be in the earlier one again
      have hreading : z.reading s ≤ z.reading m' := by
        by_contra hlt
        have hle' := hmono (not_le.1 hlt).le
        rw [hm'.reads, hreads'] at hle'
        omega
      by_contra hlt
      have hforward := h.forward m' s (hdom s m' hs hreading) (by omega)
      rw [hm'.reads, hreads'] at hforward
      omega
  · obtain ⟨m, hm, hreads⟩ := h.begins s hs
    rw [htruncated hs hm hreads.symm, htruncated hs' hm (hsame.symm.trans hreads.symm)]

end ZoneRule
