import LinePatch.Proofs.EmptyPatch

/-!
# Moved lines

Generation marks a linked old line as moved when a later linked old line goes to an earlier
new line. The scan runs from the last linked line and keeps only the earliest new place seen
so far, which is exactly what the test needs. Each moved line is written as a deletion, and
its partner among the new lines as an addition, so there are as many of one as of the other.
The pairs left in place go up on both sides, and the last linked old line is never moved:
nothing comes after it.
-/

namespace LinePatch

namespace Script

section Marks

variable {a : Alignment} {old new : List String}

private theorem movedStep_sublist (a : Alignment) (acc : List Nat × Option Nat) (x : Nat) :
    List.Sublist (movedStep a acc x).1 (x :: acc.1) := by
  obtain ⟨m, e⟩ := acc
  cases e with
  | none => exact List.Sublist.cons x (List.Sublist.refl m)
  | some e =>
    by_cases h : e < (a.patchOf x).getD 0
    · simp [movedStep, h]
    · simp [movedStep, h]

private theorem foldr_movedStep_sublist (a : Alignment) (l : List Nat) :
    List.Sublist (l.foldr (fun i acc => movedStep a acc i) ([], none)).1 l := by
  induction l with
  | nil => exact List.Sublist.slnil
  | cons x l ih =>
    rw [List.foldr_cons]
    exact (movedStep_sublist a _ x).trans (ih.cons_cons x)

theorem movedLines_sorted (a : Alignment) (n : Nat) : (movedLines a n).Pairwise (· < ·) := by
  rw [movedLines_eq, List.foldl_reverse]
  exact List.Pairwise.sublist (foldr_movedStep_sublist a _) (List.pairwise_lt_range.filter _)

theorem mem_movedLines_iff (hm : Matches a old new) (i : Nat) :
    i ∈ movedLines a old.length ↔
      ∃ j, a.patchOf i = some j ∧ ∃ i' j', i < i' ∧ a.patchOf i' = some j' ∧ j' < j := by
  rw [mem_movedLines]
  constructor
  · rintro ⟨-, hsome, i', hii', -, hsome', hlt⟩
    obtain ⟨j, hj⟩ := Option.isSome_iff_exists.mp hsome
    obtain ⟨j', hj'⟩ := Option.isSome_iff_exists.mp hsome'
    rw [hj, hj'] at hlt
    exact ⟨j, hj, i', j', hii', hj', hlt⟩
  · rintro ⟨j, hj, i', j', hii', hj', hlt⟩
    exact ⟨(hm.bound i j hj).1, by simp [hj], i', hii', (hm.bound i' j' hj').1, by simp [hj'],
      by simp [hj, hj', hlt]⟩

theorem patchOf_of_mem_movedLines (hm : Matches a old new) {i : Nat}
    (h : i ∈ movedLines a old.length) : ∃ j, a.patchOf i = some j := by
  obtain ⟨j, hj, -⟩ := (mem_movedLines_iff hm i).mp h
  exact ⟨j, hj⟩

theorem length_movedPartners (hm : Matches a old new) :
    ((List.range new.length).filter fun j =>
        (a.sourceOf j).any (movedLines a old.length).contains).length =
      (movedLines a old.length).length := by
  set M := movedLines a old.length
  have hinj : ∀ x ∈ M, ∀ y ∈ M, (a.patchOf x).getD 0 = (a.patchOf y).getD 0 → x = y := by
    intro x hx y hy hxy
    obtain ⟨jx, hjx⟩ := patchOf_of_mem_movedLines hm hx
    obtain ⟨jy, hjy⟩ := patchOf_of_mem_movedLines hm hy
    rw [hjx, hjy, Option.getD_some, Option.getD_some] at hxy
    exact hm.inj hjx (hxy ▸ hjy)
  have hnodup : (M.map fun i => (a.patchOf i).getD 0).Nodup :=
    List.Nodup.map_on hinj (movedLines_sorted a old.length).nodup
  have hperm : ((List.range new.length).filter fun j => (a.sourceOf j).any M.contains).Perm
      (M.map fun i => (a.patchOf i).getD 0) := by
    rw [List.perm_ext_iff_of_nodup (List.nodup_range.filter _) hnodup]
    intro j
    simp only [List.mem_filter, List.mem_range, Option.any_eq_true, List.contains_iff_mem,
      List.mem_map]
    constructor
    · rintro ⟨-, i, hi, hiM⟩
      refine ⟨i, hiM, ?_⟩
      rw [(hm.symm i j).mpr hi, Option.getD_some]
    · rintro ⟨i, hiM, rfl⟩
      obtain ⟨j, hj⟩ := patchOf_of_mem_movedLines hm hiM
      rw [hj, Option.getD_some]
      exact ⟨(hm.bound i j hj).2, i, (hm.symm i j).mp hj, hiM⟩
  rw [hperm.length_eq, List.length_map]

theorem lt_iff_of_not_moved (hm : Matches a old new) {i i' j j' : Nat}
    (h : a.patchOf i = some j) (h' : a.patchOf i' = some j') (hi : i ∉ movedLines a old.length)
    (hi' : i' ∉ movedLines a old.length) : i < i' ↔ j < j' := by
  have hr : removed a old i = false := by simpa [removed_of_patchOf h] using hi
  have hr' : removed a old i' = false := by simpa [removed_of_patchOf h'] using hi'
  exact lt_iff_of_kept hm h h' hr hr'

/-- Marking moved lines. Over a one-to-one pairing of the old lines with the new ones, the
scan from the last linked line marks exactly the linked lines that some later linked line
overtakes, each once and in order; the new lines written as additions for them are as many
as they are. The pairs left unmarked go up on both sides, so they never cross, and the last
linked old line is never marked. -/
theorem movedLines_marks (hm : Matches a old new) :
    (∀ i, i ∈ movedLines a old.length ↔
      ∃ j, a.patchOf i = some j ∧ ∃ i' j', i < i' ∧ a.patchOf i' = some j' ∧ j' < j) ∧
    (movedLines a old.length).Pairwise (· < ·) ∧
    ((List.range new.length).filter fun j =>
        (a.sourceOf j).any (movedLines a old.length).contains).length =
      (movedLines a old.length).length ∧
    (∀ i i' j j', a.patchOf i = some j → a.patchOf i' = some j' →
      i ∉ movedLines a old.length → i' ∉ movedLines a old.length → (i < i' ↔ j < j')) ∧
    (∀ i j, a.patchOf i = some j → (∀ i' j', a.patchOf i' = some j' → i' ≤ i) →
      i ∉ movedLines a old.length) := by
  refine ⟨mem_movedLines_iff hm, movedLines_sorted a old.length, length_movedPartners hm,
    fun _ _ _ _ h h' hi hi' => lt_iff_of_not_moved hm h h' hi hi', ?_⟩
  intro i j _ hlast hmoved
  -- a moved line has a linked line after it
  obtain ⟨-, -, i', j', hii', hj', -⟩ := (mem_movedLines_iff hm i).mp hmoved
  have := hlast i' j' hj'
  omega

/-- Linking `a b c` with `c a b` exactly: `a` and `b` are overtaken by `c`. -/
theorem movedLines_marks_example :
    let old := ["a", "b", "c"]
    let new := ["c", "a", "b"]
    let a := (sidesOf .whitespace old new).align.1
    Matches a old new ∧
      ((∀ i, i ∈ movedLines a old.length ↔
        ∃ j, a.patchOf i = some j ∧ ∃ i' j', i < i' ∧ a.patchOf i' = some j' ∧ j' < j) ∧
      (movedLines a old.length).Pairwise (· < ·) ∧
      ((List.range new.length).filter fun j =>
          (a.sourceOf j).any (movedLines a old.length).contains).length =
        (movedLines a old.length).length ∧
      (∀ i i' j j', a.patchOf i = some j → a.patchOf i' = some j' →
        i ∉ movedLines a old.length → i' ∉ movedLines a old.length → (i < i' ↔ j < j')) ∧
      (∀ i j, a.patchOf i = some j → (∀ i' j', a.patchOf i' = some j' → i' ≤ i) →
        i ∉ movedLines a old.length)) :=
  ⟨matches_align _ _ _, movedLines_marks (matches_align _ _ _)⟩

end Marks

end Script

end LinePatch
