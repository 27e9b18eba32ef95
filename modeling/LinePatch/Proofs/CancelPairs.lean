import LinePatch.Proofs.ReadBack
import Mathlib.Data.List.Nodup

/-!
# Cancelled pairs

Within one change, a deletion and a later addition of the same normal form cancel out; a
placeholder never does. The pairs are found greedily: each deletion in turn takes the
first addition after it, before the next context line, that no earlier deletion took.
-/

namespace LinePatch

namespace Script

/-- A deletion at `i` and an addition at `j` of `ls` that cancel out: `j` comes after `i`
with only changes between them, neither line is a placeholder, and the two have one
normal form. -/
structure Cancels (p : Policy) (ls : List Line) (i j : Nat) : Prop where
  lt : i < j
  bound : j < ls.length
  between : ∀ n, i < n → n < j → ∀ l ∈ ls[n]?, l.kind ≠ .context
  deletion : ∀ x ∈ ls[i]?, x.kind = .delete ∧ x.index ≠ -1
  addition : ∀ y ∈ ls[j]?, y.kind = .add ∧ y.index ≠ -1
  same : ∀ x ∈ ls[i]?, ∀ y ∈ ls[j]?, p.normalize x.text = p.normalize y.text

/-- The lines of all the pairs. -/
def paired (pairs : List (Nat × Nat)) : List Nat :=
  pairs.flatMap fun pr => [pr.1, pr.2]

def cancelStep (p : Policy) (arr : Array Line) (pairs : List (Nat × Nat)) (i : Nat) :
    List (Nat × Nat) :=
  match arr[i]? with
  | some l =>
    if l.kind = .delete && l.index != -1 then
      let key := p.normalize l.text
      let later := (List.range arr.size).filter (i < ·)
      let stop := (later.find? fun j => (arr[j]?.map (·.kind)) == some .context).getD arr.size
      let taken := pairs.map (·.2)
      match later.find? (fun j => j < stop && match arr[j]? with
          | some o => o.kind == .add && !taken.contains j && o.index != -1 &&
              p.normalize o.text == key
          | none => false) with
      | some j => pairs ++ [(i, j)]
      | none => pairs
    else pairs
  | none => pairs

theorem cancelPairs_eq (p : Policy) (diff : List Line) :
    cancelPairs p diff = (List.range diff.length).foldl (cancelStep p diff.toArray) [] := by
  unfold cancelPairs
  rfl

theorem annihilate_eq (p : Policy) (diff : List Line) :
    annihilate p diff =
      ((diff.zipIdx.filter fun e => e.2 ∉ paired (cancelPairs p diff)).map (·.1),
        (cancelPairs p diff).length) := by
  unfold annihilate
  simp only [Prod.mk.injEq, and_true]
  congr 2
  funext e
  -- the lines dropped are those of the pairs, up to the eta rule of pairs
  show (!(paired (cancelPairs p diff)).contains e.2) = decide (e.2 ∉ paired (cancelPairs p diff))
  rw [decide_not, List.contains_eq_mem]

section Search

private theorem find?_le_of_mem {l : List Nat} (hl : l.Pairwise (· < ·)) {P : Nat → Bool}
    {n : Nat} (hn : n ∈ l) (hP : P n = true) : ∃ s, l.find? P = some s ∧ s ≤ n := by
  induction l with
  | nil => simp at hn
  | cons x l ih =>
    rw [List.find?_cons]
    by_cases hx : P x = true
    · rw [hx]
      refine ⟨x, rfl, ?_⟩
      rcases List.mem_cons.mp hn with rfl | hn
      · exact Nat.le_refl _
      · exact Nat.le_of_lt (List.rel_of_pairwise_cons hl hn)
    · have hne : n ≠ x := fun h => hx (h ▸ hP)
      simp only [Bool.not_eq_true] at hx
      rw [hx]
      exact ih hl.of_cons (List.mem_of_ne_of_mem hne hn)

private theorem lt_stop_iff {diff : List Line} {m j : Nat} (hj : j < diff.length) :
    j < (((List.range diff.length).filter (m < ·)).find? fun n =>
      (diff[n]?.map (·.kind)) == some .context).getD diff.length ↔
      ∀ n, m < n → n ≤ j → ∀ l ∈ diff[n]?, l.kind ≠ .context := by
  constructor
  · -- a context line after `m` and up to `j` would have ended the search before `j`
    intro hstop n hmn hnj c hc hctx
    have hlater : n ∈ (List.range diff.length).filter (m < ·) := by
      simp [hmn, Nat.lt_of_le_of_lt hnj hj]
    obtain ⟨s, hs, hsn⟩ := find?_le_of_mem
      (List.Pairwise.filter _ List.pairwise_lt_range) hlater
      (P := fun j => (diff[j]?.map (·.kind)) == some .context)
      (by simp [Option.mem_def.mp hc, hctx])
    rw [hs, Option.getD_some] at hstop
    omega
  · intro hchanges
    cases hs : ((List.range diff.length).filter (m < ·)).find? fun n =>
        (diff[n]?.map (·.kind)) == some .context with
    | none => exact hj
    | some s =>
      have hctx := List.find?_some hs
      obtain ⟨hs, hms⟩ := List.mem_filter.mp (List.mem_of_find?_eq_some hs)
      replace hms : m < s := by simpa using hms
      replace hs : s < diff.length := List.mem_range.mp hs
      rw [Option.getD_some]
      by_contra hsj
      apply hchanges s hms (by omega) diff[s] (by simp [hs])
      simpa [hs] using hctx

private theorem forall_mem_some {P : Line → Line → Prop} {a b : Option Line} {x y : Line}
    (ha : a = some x) (hb : b = some y) (h : P x y) : ∀ x' ∈ a, ∀ y' ∈ b, P x' y' := by
  intro x' hx' y' hy'
  rw [ha, Option.mem_def, Option.some.injEq] at hx'
  rw [hb, Option.mem_def, Option.some.injEq] at hy'
  subst hx' hy'
  exact h

end Search

/-- What the pairs found among the first `m` lines satisfy: each pairs one of those lines
with a later line of its run of the same normal form, neither a placeholder; no line
stands in two pairs on the same side; and each of those lines left without a partner could
only cancel additions that are taken. -/
structure PairsFound (p : Policy) (diff : List Line) (m : Nat)
    (pairs : List (Nat × Nat)) : Prop where
  fst_lt : ∀ pr ∈ pairs, pr.1 < m
  fst_nodup : (pairs.map (·.1)).Nodup
  snd_nodup : (pairs.map (·.2)).Nodup
  lt : ∀ pr ∈ pairs, pr.1 < pr.2 ∧ pr.2 < diff.length
  within : ∀ pr ∈ pairs, ∀ n, pr.1 < n → n ≤ pr.2 →
    ∀ l ∈ diff[n]?, l.kind ≠ .context
  same : ∀ pr ∈ pairs, ∀ x ∈ diff[pr.1]?, ∀ y ∈ diff[pr.2]?,
    p.normalize x.text = p.normalize y.text
  marked : ∀ pr ∈ pairs, ∀ x ∈ diff[pr.1]?, ∀ y ∈ diff[pr.2]?, x.index ≠ -1 ∧ y.index ≠ -1
  greedy : ∀ i < m, i ∉ pairs.map (·.1) → ∀ j, Cancels p diff i j → j ∈ pairs.map (·.2)

theorem PairsFound.push {p : Policy} {diff : List Line} {m : Nat}
    {pairs : List (Nat × Nat)} (h : PairsFound p diff m pairs) {j : Nat} (hmj : m < j)
    (hj : j < diff.length) (htaken : j ∉ pairs.map (·.2))
    (hwithin : ∀ n, m < n → n ≤ j → ∀ l ∈ diff[n]?, l.kind ≠ .context)
    (hsame : ∀ x ∈ diff[m]?, ∀ y ∈ diff[j]?, p.normalize x.text = p.normalize y.text)
    (hmarked : ∀ x ∈ diff[m]?, ∀ y ∈ diff[j]?, x.index ≠ -1 ∧ y.index ≠ -1) :
    PairsFound p diff (m + 1) (pairs ++ [(m, j)]) := by
  refine ⟨?_, ?_, ?_, ?_, ?_, ?_, ?_, ?_⟩
  · intro pr hpr
    rcases List.mem_append.mp hpr with hpr | hpr
    · exact Nat.lt_succ_of_lt (h.fst_lt pr hpr)
    · rw [List.mem_singleton.mp hpr]
      exact Nat.lt_succ_self m
  · rw [List.map_append, List.nodup_append]
    refine ⟨h.fst_nodup, by simp, ?_⟩
    intro a ha b hb
    obtain ⟨pr, hpr, rfl⟩ := List.mem_map.mp ha
    rw [List.map_singleton, List.mem_singleton] at hb
    subst hb
    exact Nat.ne_of_lt (h.fst_lt pr hpr)
  · rw [List.map_append, List.nodup_append]
    refine ⟨h.snd_nodup, by simp, ?_⟩
    intro a ha b hb
    rw [List.map_singleton, List.mem_singleton] at hb
    subst hb
    exact fun hab => htaken (hab ▸ ha)
  · intro pr hpr
    rcases List.mem_append.mp hpr with hpr | hpr
    · exact h.lt pr hpr
    · rw [List.mem_singleton.mp hpr]
      exact ⟨hmj, hj⟩
  · intro pr hpr
    rcases List.mem_append.mp hpr with hpr | hpr
    · exact h.within pr hpr
    · rw [List.mem_singleton.mp hpr]
      exact hwithin
  · intro pr hpr
    rcases List.mem_append.mp hpr with hpr | hpr
    · exact h.same pr hpr
    · rw [List.mem_singleton.mp hpr]
      exact hsame
  · intro pr hpr
    rcases List.mem_append.mp hpr with hpr | hpr
    · exact h.marked pr hpr
    · rw [List.mem_singleton.mp hpr]
      exact hmarked
  · -- `m` now has a partner; a line before it was left without one before
    intro i hi hfree j' hc
    have hfree' : i ∉ pairs.map (·.1) := fun hmem => hfree (by simp [hmem])
    have him : i < m := by
      rcases Nat.lt_succ_iff_lt_or_eq.mp hi with him | rfl
      · exact him
      · exact absurd (by simp) hfree
    rw [List.map_append, List.mem_append]
    exact Or.inl (h.greedy i him hfree' j' hc)

theorem PairsFound.pass {p : Policy} {diff : List Line} {m : Nat}
    {pairs : List (Nat × Nat)} (h : PairsFound p diff m pairs)
    (hm : ∀ j, Cancels p diff m j → j ∈ pairs.map (·.2)) :
    PairsFound p diff (m + 1) pairs := by
  refine { h with fst_lt := fun pr hpr => Nat.lt_succ_of_lt (h.fst_lt pr hpr), greedy := ?_ }
  intro i hi hfree j hc
  rcases Nat.lt_succ_iff_lt_or_eq.mp hi with him | rfl
  · exact h.greedy i him hfree j hc
  · exact hm j hc

theorem pairsFound_step {p : Policy} {diff : List Line} {m : Nat}
    {pairs : List (Nat × Nat)} (h : PairsFound p diff m pairs) :
    PairsFound p diff (m + 1) (cancelStep p diff.toArray pairs m) := by
  unfold cancelStep
  simp only [List.getElem?_toArray, List.size_toArray]
  split
  · next l hl =>
    split
    · next hdel =>
      simp only [Bool.and_eq_true, decide_eq_true_eq, bne_iff_ne, ne_eq] at hdel
      split
      · next j hj =>
        have hpick := List.find?_some hj
        obtain ⟨hj, hmj⟩ := List.mem_filter.mp (List.mem_of_find?_eq_some hj)
        replace hmj : m < j := by simpa using hmj
        replace hj : j < diff.length := List.mem_range.mp hj
        simp only [Bool.and_eq_true, decide_eq_true_eq] at hpick
        obtain ⟨hstop, hpick⟩ := hpick
        split at hpick
        · next o ho =>
          simp only [Bool.and_eq_true, beq_iff_eq, Bool.not_eq_true', List.contains_eq_mem,
            decide_eq_false_iff_not, bne_iff_ne, ne_eq] at hpick
          obtain ⟨⟨⟨-, htaken⟩, hindex⟩, hkey⟩ := hpick
          exact h.push hmj hj htaken ((lt_stop_iff hj).mp hstop)
            (forall_mem_some hl ho hkey.symm) (forall_mem_some hl ho ⟨hdel.2, hindex⟩)
        · simp at hpick
      · next hnone =>
        -- the search found nothing, so every addition `m` cancels is taken
        refine h.pass fun j hc => ?_
        by_contra htaken
        have hbound := hc.bound
        obtain ⟨y, hy⟩ : ∃ y, diff[j]? = some y := ⟨diff[j], by simp [hbound]⟩
        have hyadd := hc.addition y hy
        apply List.find?_eq_none.mp hnone j (by simp [hc.lt, hc.bound])
        have hstop := (lt_stop_iff (m := m) hc.bound).mpr fun n hmn hnj l hln => by
          rcases Nat.lt_or_eq_of_le hnj with hnj | rfl
          · exact hc.between n hmn hnj l hln
          · rw [Option.mem_def.mp hln] at hy
            cases hy
            rw [hyadd.1]
            decide
        simp only [Bool.and_eq_true, decide_eq_true_eq, hy, beq_iff_eq, Bool.not_eq_true',
          List.contains_eq_mem, decide_eq_false_iff_not, bne_iff_ne, ne_eq]
        exact ⟨hstop, ⟨⟨hyadd.1, htaken⟩, hyadd.2⟩, (hc.same l hl y hy).symm⟩
    · next hdel =>
      -- line `m` is no deletion that can cancel
      refine h.pass fun j hc => absurd ?_ hdel
      obtain ⟨hkind, hindex⟩ := hc.deletion l hl
      simp [hkind, hindex]
  · next hl =>
    -- past the end there is nothing to cancel
    refine h.pass fun j hc => absurd hl ?_
    simp [Nat.lt_trans hc.lt hc.bound]

theorem pairsFound_foldl (p : Policy) (diff : List Line) :
    ∀ m, PairsFound p diff m ((List.range m).foldl (cancelStep p diff.toArray) [])
  | 0 => ⟨by simp, by simp, by simp, by simp, by simp, by simp, by simp, by simp⟩
  | m + 1 => by
    rw [List.range_succ, List.foldl_append, List.foldl_cons, List.foldl_nil]
    exact pairsFound_step (pairsFound_foldl p diff m)

theorem pairsFound_cancelPairs (p : Policy) (diff : List Line) :
    PairsFound p diff diff.length (cancelPairs p diff) := by
  rw [cancelPairs_eq]
  exact pairsFound_foldl p diff diff.length

section Paired

theorem paired_perm (pairs : List (Nat × Nat)) :
    (paired pairs).Perm (pairs.map (·.1) ++ pairs.map (·.2)) := by
  induction pairs with
  | nil => exact List.Perm.refl _
  | cons pr pairs ih =>
    simp only [paired, List.flatMap_cons, List.map_cons, List.cons_append] at ih ⊢
    exact ((ih.cons pr.2).trans List.perm_middle.symm).cons pr.1

theorem mem_paired {pairs : List (Nat × Nat)} {n : Nat} :
    n ∈ paired pairs ↔ n ∈ pairs.map (·.1) ∨ n ∈ pairs.map (·.2) :=
  (paired_perm pairs).mem_iff.trans List.mem_append

theorem length_paired (pairs : List (Nat × Nat)) : (paired pairs).length = 2 * pairs.length := by
  rw [(paired_perm pairs).length_eq, List.length_append, List.length_map, List.length_map]
  omega

theorem nodup_paired (p : Policy) (diff : List Line) : (paired (cancelPairs p diff)).Nodup := by
  have hF := pairsFound_cancelPairs p diff
  have hkinds := cancelPairs_kinds p diff
  refine (paired_perm _).nodup_iff.mpr
    (List.nodup_append.mpr ⟨hF.fst_nodup, hF.snd_nodup, ?_⟩)
  intro a ha b hb hab
  obtain ⟨pr, hpr, rfl⟩ := List.mem_map.mp ha
  obtain ⟨pr', hpr', rfl⟩ := List.mem_map.mp hb
  have h₁ := (hkinds pr hpr).1
  have h₂ := (hkinds pr' hpr').2
  rw [hab, h₂] at h₁
  cases h₁

theorem paired_changes (p : Policy) (diff : List Line) :
    ∀ n ∈ paired (cancelPairs p diff), ∀ l ∈ diff[n]?, l.kind ≠ .context := by
  intro n hn l hl
  have hkinds := cancelPairs_kinds p diff
  rcases mem_paired.mp hn with hn | hn <;> obtain ⟨pr, hpr, rfl⟩ := List.mem_map.mp hn
  · have hk := (hkinds pr hpr).1
    rw [Option.mem_def.mp hl] at hk
    simp only [Option.map_some, Option.some.injEq] at hk
    rw [hk]
    decide
  · have hk := (hkinds pr hpr).2
    rw [Option.mem_def.mp hl] at hk
    simp only [Option.map_some, Option.some.injEq] at hk
    rw [hk]
    decide

theorem cancels_of_mem_cancelPairs {p : Policy} {diff : List Line} {pr : Nat × Nat}
    (hpr : pr ∈ cancelPairs p diff) : Cancels p diff pr.1 pr.2 := by
  have hF := pairsFound_cancelPairs p diff
  have hkinds := cancelPairs_kinds p diff pr hpr
  obtain ⟨hlt, hbound⟩ := hF.lt pr hpr
  obtain ⟨y, hy⟩ : ∃ y, diff[pr.2]? = some y := ⟨diff[pr.2], by simp [hbound]⟩
  obtain ⟨x, hx⟩ : ∃ x, diff[pr.1]? = some x := ⟨diff[pr.1], by simp [Nat.lt_trans hlt hbound]⟩
  have hmarked := hF.marked pr hpr x hx y hy
  refine ⟨hlt, hbound, fun n h₁ h₂ => hF.within pr hpr n h₁ (Nat.le_of_lt h₂), ?_, ?_,
    hF.same pr hpr⟩
  · intro x' hx'
    rw [Option.mem_def.mp hx', Option.some.injEq] at hx
    subst hx
    refine ⟨?_, hmarked.1⟩
    simpa [Option.mem_def.mp hx'] using hkinds.1
  · intro y' hy'
    rw [Option.mem_def.mp hy', Option.some.injEq] at hy
    subst hy
    refine ⟨?_, hmarked.2⟩
    simpa [Option.mem_def.mp hy'] using hkinds.2

end Paired

section Kept

theorem pairwise_zipIdx_snd (l : List Line) (k : Nat) :
    (l.zipIdx k).Pairwise fun e f => e.2 < f.2 := by
  induction l generalizing k with
  | nil => exact List.Pairwise.nil
  | cons x l ih =>
    rw [List.zipIdx_cons]
    refine List.pairwise_cons.mpr ⟨?_, ih (k + 1)⟩
    rintro ⟨y, n⟩ hmem
    exact (List.mem_zipIdx hmem).1

private theorem lt_of_snd_lt {K : List (Line × Nat)} (hK : K.Pairwise fun e f => e.2 < f.2)
    {a c : Nat} (ha : a < K.length) (hc : c < K.length) (h : K[a].2 < K[c].2) : a < c := by
  by_contra hca
  rcases Nat.lt_or_eq_of_le (Nat.le_of_not_lt hca) with hlt | rfl
  · exact Nat.lt_asymm h (List.pairwise_iff_getElem.mp hK c a hc ha hlt)
  · exact Nat.lt_irrefl _ h

theorem Cancels.of_kept {p : Policy} {diff : List Line} {gone : List Nat}
    (hgone : ∀ n ∈ gone, ∀ l ∈ diff[n]?, l.kind ≠ .context) {a b : Nat}
    (h : Cancels p ((diff.zipIdx.filter fun e => e.2 ∉ gone).map (·.1)) a b) :
    ∃ i j, i ∉ gone ∧ j ∉ gone ∧ Cancels p diff i j := by
  generalize hKdef : (diff.zipIdx.filter fun e => e.2 ∉ gone) = K at h
  have hsorted : K.Pairwise fun e f => e.2 < f.2 :=
    hKdef ▸ (pairwise_zipIdx_snd diff 0).filter _
  have hmemK : ∀ e, e ∈ K ↔ diff[e.2]? = some e.1 ∧ e.2 ∉ gone := by
    intro e
    rw [← hKdef, List.mem_filter, List.mem_zipIdx_iff_getElem?, decide_eq_true_iff]
  have hout : ∀ c (hc : c < K.length), (K.map (·.1))[c]? = some K[c].1 := fun c hc => by
    rw [List.getElem?_map, List.getElem?_eq_getElem hc]
    rfl
  have hb : b < K.length := by simpa using h.bound
  have ha : a < K.length := Nat.lt_trans h.lt hb
  obtain ⟨hi, hifree⟩ := (hmemK K[a]).mp (List.getElem_mem ha)
  obtain ⟨hj, hjfree⟩ := (hmemK K[b]).mp (List.getElem_mem hb)
  -- the two lines left are the lines at their positions among all the lines
  have hat : (K.map (·.1))[a]? = diff[K[a].2]? := by rw [hout a ha, hi]
  have hbt : (K.map (·.1))[b]? = diff[K[b].2]? := by rw [hout b hb, hj]
  refine ⟨K[a].2, K[b].2, hifree, hjfree, ⟨?_, ?_, ?_, fun x hx => h.deletion x (hat ▸ hx),
    fun y hy => h.addition y (hbt ▸ hy), fun x hx y hy => h.same x (hat ▸ hx) y (hbt ▸ hy)⟩⟩
  · exact List.pairwise_iff_getElem.mp hsorted a b ha hb h.lt
  · exact (List.getElem?_eq_some_iff.mp hj).1
  · intro n hin hnj l hl
    by_cases hn : n ∈ gone
    · exact hgone n hn l hl
    · -- a line left between the two sits between them among the lines left
      obtain ⟨c, hc, hKc⟩ := List.getElem_of_mem ((hmemK (l, n)).mpr ⟨hl, hn⟩)
      have hac : a < c := lt_of_snd_lt hsorted ha hc (by rw [hKc]; exact hin)
      have hcb : c < b := lt_of_snd_lt hsorted hc hb (by rw [hKc]; exact hnj)
      exact h.between c hac hcb l (by rw [hout c hc, hKc]; rfl)

theorem length_filter_zipIdx {diff : List Line} {gone : List Nat} (hnd : gone.Nodup)
    (hlt : ∀ n ∈ gone, n < diff.length) :
    ((diff.zipIdx.filter fun e => e.2 ∉ gone).map (·.1)).length + gone.length =
      diff.length := by
  -- the positions dropped, read off the numbered list, are `gone` in another order
  have hperm : ((List.range' 0 diff.length).filter fun n => n ∈ gone).Perm gone := by
    apply (List.perm_ext_iff_of_nodup ((List.nodup_range' 1 Nat.one_pos).filter _) hnd).mpr
    intro n
    simp only [List.mem_filter, List.mem_range'_1, decide_eq_true_eq]
    exact ⟨fun h => h.2, fun h => ⟨⟨Nat.zero_le n, by simpa using hlt n h⟩, h⟩⟩
  have hdropped : (diff.zipIdx.filter fun e => !decide (e.2 ∉ gone)).length = gone.length := by
    rw [← hperm.length_eq, ← List.zipIdx_map_snd, List.filter_map, List.length_map]
    congr 2
    funext e
    simp
  rw [List.length_map, ← hdropped, ← List.length_eq_length_filter_add, List.length_zipIdx]

end Kept

/-- Cancelling drops `r` pairs and reports `r`. The pairs are disjoint, each is a deletion
and a later addition of its run that cancel out, the other lines stay in their order, and
what is left has no pair that cancels out: the greedy pairing is maximal. -/
theorem annihilate_drops_maximal_pairs (p : Policy) (diff : List Line) :
    ∃ pairs : List (Nat × Nat),
      (annihilate p diff).2 = pairs.length ∧
      (paired pairs).Nodup ∧
      (∀ pr ∈ pairs, Cancels p diff pr.1 pr.2) ∧
      (annihilate p diff).1 = (diff.zipIdx.filter fun e => e.2 ∉ paired pairs).map (·.1) ∧
      (annihilate p diff).1.length + 2 * pairs.length = diff.length ∧
      ∀ i j, ¬Cancels p (annihilate p diff).1 i j := by
  have hF := pairsFound_cancelPairs p diff
  have hlt : ∀ n ∈ paired (cancelPairs p diff), n < diff.length := by
    intro n hn
    rcases mem_paired.mp hn with hn | hn <;> obtain ⟨pr, hpr, rfl⟩ := List.mem_map.mp hn
    · exact Nat.lt_trans (hF.lt pr hpr).1 (hF.lt pr hpr).2
    · exact (hF.lt pr hpr).2
  refine ⟨cancelPairs p diff, by rw [annihilate_eq], nodup_paired p diff,
    fun pr hpr => cancels_of_mem_cancelPairs hpr, by rw [annihilate_eq], ?_, ?_⟩
  · rw [annihilate_eq, ← length_paired]
    exact length_filter_zipIdx (nodup_paired p diff) hlt
  · -- a pair left that cancels out was one the greedy search had to take
    intro i j hc
    rw [annihilate_eq] at hc
    obtain ⟨i, j, hi, hj, hc⟩ := Cancels.of_kept (paired_changes p diff) hc
    have hfree : i ∉ (cancelPairs p diff).map (·.1) := fun hmem => hi (mem_paired.mpr (Or.inl hmem))
    exact hj (mem_paired.mpr (Or.inr (hF.greedy i (Nat.lt_trans hc.lt hc.bound) hfree j hc)))

end Script

end LinePatch
