import RowFilter.Unicode.Lowercase

/-! # Lower case is settled after one pass

The first pass removes the two characters that look further, and no run of the table ends where a
run begins. So a second pass meets only characters that are their own lower-case form.
-/

namespace RowFilter.Unicode

/-- Whether another run passes over the images of a run: they lie below it, above it, or, as it
goes by twos, between its places. -/
def CaseRun.misses (r other : CaseRun) : Bool :=
  Nat.blt (r.target r.last) other.first || Nat.blt other.last (r.target r.first) ||
    ((r.step == 2 || r.first == r.last) && other.step == 2 && 0 ≤ r.first + r.distance &&
      r.target r.first % 2 != other.first % 2)

theorem CaseRun.maps_target {r other : CaseRun} (apart : r.misses other = true) {n : Nat}
    (mapped : r.maps n = true) : other.maps (r.target n) = false := by
  simp only [maps, Bool.and_eq_true, decide_eq_true_eq, beq_iff_eq] at mapped
  obtain ⟨⟨first, last⟩, aligned⟩ := mapped
  simp only [misses, Bool.or_eq_true, Bool.and_eq_true, decide_eq_true_eq, beq_iff_eq,
    bne_iff_ne, Nat.blt_eq] at apart
  rw [Bool.eq_false_iff]
  simp only [maps, ne_eq, Bool.and_eq_true, decide_eq_true_eq, beq_iff_eq, not_and]
  rintro ⟨above, below⟩
  simp only [target] at apart above below ⊢
  rcases apart with (before | behind) | ⟨⟨⟨strided, two⟩, inside⟩, parity⟩
  · omega
  · omega
  · rw [two]
    rcases strided with two' | single
    · rw [two'] at aligned
      omega
    · omega

/-- No run maps a code point onto one that is mapped further, or onto the capital I with a dot. -/
theorem lowercaseRuns_misses :
    (lowercaseRuns.all fun r =>
      (⟨0x130, 0x130, 1, 0⟩ :: lowercaseRuns).all fun other => r.misses other) = true := by
  decide +kernel

/-- A code point is its own image, or it has an image that no run maps. -/
theorem applyRuns_cases (n : Nat) :
    applyRuns lowercaseRuns n = n ∨
      ∀ other ∈ ⟨0x130, 0x130, 1, 0⟩ :: lowercaseRuns,
        other.maps (applyRuns lowercaseRuns n) = false := by
  unfold applyRuns
  split
  · rename_i r found
    refine .inr fun other listed => ?_
    have apart := List.all_eq_true.mp lowercaseRuns_misses r (List.mem_of_find?_eq_some found)
    have mapped : r.maps n = true := by simpa using List.find?_some found
    exact CaseRun.maps_target (List.all_eq_true.mp apart other listed) mapped
  · exact .inl rfl

theorem applyRuns_applyRuns (n : Nat) :
    applyRuns lowercaseRuns (applyRuns lowercaseRuns n) = applyRuns lowercaseRuns n := by
  rcases applyRuns_cases n with fixed | passed
  · rw [fixed, fixed]
  · have none : lowercaseRuns.find? (fun r => r.maps (applyRuns lowercaseRuns n)) = none := by
      rw [List.find?_eq_none]
      intro other listed
      rw [passed other (List.mem_cons_of_mem _ listed)]
      exact Bool.false_ne_true
    rw [applyRuns, none]

/-- Of ASCII the table maps the capitals. -/
theorem applyRuns_ascii {n : Nat} (ascii : n < 128) :
    applyRuns lowercaseRuns n = if 0x41 ≤ n ∧ n ≤ 0x5a then n + 32 else n := by
  have beyond : ∀ r ∈ lowercaseRuns.tail, 128 ≤ r.first := by decide +kernel
  have split : lowercaseRuns = ⟨0x41, 0x5a, 1, 32⟩ :: lowercaseRuns.tail := rfl
  have none : lowercaseRuns.tail.find? (fun r => r.maps n) = none := by
    rw [List.find?_eq_none]
    intro r listed
    have above := beyond r listed
    simp only [CaseRun.maps, Bool.and_eq_true, decide_eq_true_eq, not_and]
    omega
  have maps : (CaseRun.mk 0x41 0x5a 1 32).maps n = decide (0x41 ≤ n ∧ n ≤ 0x5a) := by
    simp [CaseRun.maps, Nat.mod_one]
  rw [applyRuns, split, List.find?_cons, none, maps]
  by_cases capital : 0x41 ≤ n ∧ n ≤ 0x5a
  · rw [decide_eq_true capital, if_pos capital]
    exact Int.toNat_natCast (n + 32)
  · rw [decide_eq_false capital, if_neg capital]

/-- The table holds for letters of ASCII as well. -/
theorem lowerChar_eq (c : Char) : lowerChar c = Char.ofNat (applyRuns lowercaseRuns c.toNat) := by
  unfold lowerChar
  split
  · rename_i ascii
    rw [applyRuns_ascii ascii]
    have table : ∀ n < 128, (Char.ofNat n).toLower =
        Char.ofNat (if 0x41 ≤ n ∧ n ≤ 0x5a then n + 32 else n) := by
      decide
    have same := table c.toNat ascii
    rwa [Char.ofNat_toNat] at same
  · rfl

/-- A number that is no code point stands for the null character. -/
theorem toNat_ofNat_or (n : Nat) : (Char.ofNat n).toNat = n ∨ Char.ofNat n = Char.ofNat 0 := by
  by_cases valid : n.isValidChar
  · left
    rw [Char.ofNat, dif_pos valid]
    rfl
  · right
    rw [Char.ofNat, dif_neg valid]
    rfl

theorem lowerChar_lowerChar (c : Char) : lowerChar (lowerChar c) = lowerChar c := by
  rw [lowerChar_eq (lowerChar c), lowerChar_eq c]
  rcases toNat_ofNat_or (applyRuns lowercaseRuns c.toNat) with image | null
  · rw [image, applyRuns_applyRuns]
  · rw [null, applyRuns_ascii (by decide)]
    rfl

/-- A character that lower-casing leaves wherever it stands. -/
def Settled (c : Char) : Prop := lowerChar c = c ∧ c ≠ 'Σ' ∧ c ≠ 'İ'

instance (c : Char) : Decidable (Settled c) := inferInstanceAs (Decidable (_ ∧ _ ∧ _))

theorem settled_lowerChar {c : Char} (plain : c ≠ 'İ') : Settled (lowerChar c) := by
  refine ⟨lowerChar_lowerChar c, ?_, ?_⟩
  · intro sigma
    have fixed := lowerChar_lowerChar c
    rw [sigma] at fixed
    revert fixed
    decide
  · intro dotted
    rw [lowerChar_eq] at dotted
    rcases applyRuns_cases c.toNat with fixed | passed
    · rw [fixed, Char.ofNat_toNat] at dotted
      exact plain dotted
    · rcases toNat_ofNat_or (applyRuns lowercaseRuns c.toNat) with image | null
      · have missed := passed _ List.mem_cons_self
        rw [← image, dotted] at missed
        revert missed
        decide
      · rw [null] at dotted
        revert dotted
        decide

theorem settled_of_mem {before cs : List Char} : ∀ c ∈ lowerFrom before cs, Settled c := by
  induction cs generalizing before with
  | nil => exact List.forall_mem_nil _
  | cons c rest ih =>
      rw [lowerFrom, List.forall_mem_append]
      refine ⟨?_, ih⟩
      split
      · split <;> exact List.forall_mem_singleton.mpr (by decide)
      · split
        · exact List.forall_mem_cons.mpr ⟨by decide, List.forall_mem_singleton.mpr (by decide)⟩
        · rename_i plain
          exact List.forall_mem_singleton.mpr (settled_lowerChar plain)

theorem lowerFrom_of_settled {before cs : List Char} (settled : ∀ c ∈ cs, Settled c) :
    lowerFrom before cs = cs := by
  induction cs generalizing before with
  | nil => rfl
  | cons c rest ih =>
      rw [List.forall_mem_cons] at settled
      obtain ⟨⟨fixed, sigma, dotted⟩, others⟩ := settled
      rw [lowerFrom, if_neg sigma, if_neg dotted, fixed, ih others]
      rfl

/-- Lower-casing twice is lower-casing once. -/
theorem toLowercase_toLowercase (s : String) : toLowercase (toLowercase s) = toLowercase s := by
  rw [toLowercase, toLowercase, String.toList_ofList, lowerFrom_of_settled settled_of_mem]

end RowFilter.Unicode
