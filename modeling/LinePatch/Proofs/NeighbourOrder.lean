import LinePatch.Script
import LinePatch.Proofs.Linking
import LinePatch.Proofs.Reorder
import LinePatch.Proofs.RoundTrip
import Mathlib.Data.List.Basic

/-!
# Remembered neighbours follow the current order

A strand starts with each line remembering the lines beside it. Reordering exchanges an
addition with the deletion after it and gives new neighbours to those two lines only, so
the lines around them keep naming their old neighbours. The neighbours still never point
the wrong way: the line remembered after a slot stands later in the current order, the
line remembered before it earlier (`LinksInOrder`). A swap moves the two lines it
exchanges by one place each, and every remembered neighbour outside the pair keeps its
side, so each swap keeps the invariant, and with it every sweep and every reordering.

Main statement: `neighbour_loops_end`: the walks and loops that follow remembered neighbours
end within the fuel they are given, and more fuel changes nothing.
-/

namespace LinePatch

namespace Strand

/-- The remembered neighbours of a strand follow its current order: the order holds every
slot once, the line remembered after a slot stands later in it and the line remembered
before a slot earlier. -/
structure LinksInOrder (t : Strand) : Prop where
  arranged : t.order.Perm (List.range t.size)
  after_later : ∀ i k, t.after i = some k → k < t.size ∧ t.order.idxOf i < t.order.idxOf k
  before_earlier : ∀ i k, t.before i = some k → k < t.size ∧ t.order.idxOf k < t.order.idxOf i

theorem LinksInOrder.nodup {t : Strand} (h : t.LinksInOrder) : t.order.Nodup :=
  h.arranged.nodup_iff.mpr List.nodup_range

theorem LinksInOrder.mem_order {t : Strand} (h : t.LinksInOrder) {i : Nat} :
    i ∈ t.order ↔ i < t.size := by
  rw [h.arranged.mem_iff, List.mem_range]

theorem LinksInOrder.length_order {t : Strand} (h : t.LinksInOrder) : t.order.length = t.size := by
  simpa using h.arranged.length_eq

theorem LinksInOrder.idxOf_lt {t : Strand} (h : t.LinksInOrder) {i : Nat} (hi : i < t.size) :
    t.order.idxOf i < t.size :=
  h.length_order ▸ List.idxOf_lt_length_of_mem (h.mem_order.mpr hi)

@[simp] theorem size_ofLines (ls : List Line) : (ofLines ls).size = ls.length := by
  simp [ofLines, size]

theorem idxOf_range {n i : Nat} (hi : i < n) : (List.range n).idxOf i = i := by
  simpa using List.get_idxOf (List.nodup_range (n := n)) ⟨i, by simpa using hi⟩

theorem linksInOrder_ofLines (ls : List Line) : (ofLines ls).LinksInOrder := by
  have hentry : ∀ i, (ofLines ls).entries[i]? = (ls[i]?).map fun l =>
      Entry.mk l (if i = 0 then none else some (i - 1))
        (if i + 1 < ls.length then some (i + 1) else none) := by
    intro i
    simp [ofLines, List.getElem?_zipIdx, Function.comp_def]
  refine ⟨by simp, ?_, ?_⟩
  · intro i k hik
    simp only [after, hentry] at hik
    cases hl : ls[i]? with
    | none => simp [hl] at hik
    | some l =>
      have hi : i < ls.length := (List.getElem?_eq_some_iff.mp hl).1
      simp only [hl, Option.map_some, Option.bind_some] at hik
      split at hik
      · cases hik
        simp [idxOf_range hi, idxOf_range (by assumption : i + 1 < ls.length), *]
      · cases hik
  · intro i k hik
    simp only [before, hentry] at hik
    cases hl : ls[i]? with
    | none => simp [hl] at hik
    | some l =>
      have hi : i < ls.length := (List.getElem?_eq_some_iff.mp hl).1
      simp only [hl, Option.map_some, Option.bind_some] at hik
      split at hik
      · cases hik
      · cases hik
        simp [idxOf_range hi, idxOf_range (by omega : i - 1 < ls.length)]
        omega

theorem idxOf_exchange {l₁ l₂ : List Nat} {a d : Nat} (hnd : (l₁ ++ a :: d :: l₂).Nodup) :
    (l₁ ++ a :: d :: l₂).idxOf a = l₁.length ∧ (l₁ ++ a :: d :: l₂).idxOf d = l₁.length + 1 ∧
      (l₁ ++ d :: a :: l₂).idxOf d = l₁.length ∧ (l₁ ++ d :: a :: l₂).idxOf a = l₁.length + 1 ∧
      ∀ x, x ≠ a → x ≠ d → (l₁ ++ d :: a :: l₂).idxOf x = (l₁ ++ a :: d :: l₂).idxOf x ∧
        ((l₁ ++ a :: d :: l₂).idxOf x < l₁.length ∨
          l₁.length + 2 ≤ (l₁ ++ a :: d :: l₂).idxOf x) := by
  obtain ⟨ha₁, hd₁, had⟩ : a ∉ l₁ ∧ d ∉ l₁ ∧ a ≠ d := by
    simp only [List.nodup_append, List.nodup_cons, List.mem_cons, not_or] at hnd
    exact ⟨fun h => hnd.2.2 a h a (by simp) rfl, fun h => hnd.2.2 d h d (by simp) rfl,
      hnd.2.1.1.1⟩
  refine ⟨?_, ?_, ?_, ?_, fun x hxa hxd => ?_⟩
  · simp [List.idxOf_append_of_notMem ha₁]
  · simp [List.idxOf_append_of_notMem hd₁, List.idxOf_cons_ne _ had]
  · simp [List.idxOf_append_of_notMem hd₁]
  · simp [List.idxOf_append_of_notMem ha₁, List.idxOf_cons_ne _ (Ne.symm had)]
  · by_cases hx : x ∈ l₁
    · rw [List.idxOf_append_of_mem hx, List.idxOf_append_of_mem hx]
      exact ⟨rfl, Or.inl (List.idxOf_lt_length_of_mem hx)⟩
    · have hskip : ∀ y z, y ≠ x → z ≠ x →
          (y :: z :: l₂).idxOf x = l₂.idxOf x + 2 := fun y z hy hz => by
        rw [List.idxOf_cons_ne _ hy, List.idxOf_cons_ne _ hz]
      rw [List.idxOf_append_of_notMem hx, List.idxOf_append_of_notMem hx,
        hskip d a (Ne.symm hxd) (Ne.symm hxa), hskip a d (Ne.symm hxa) (Ne.symm hxd)]
      exact ⟨rfl, Or.inr (by omega)⟩

theorem idxOf_exchange_lt {l₁ l₂ : List Nat} {a d x k : Nat} (hnd : (l₁ ++ a :: d :: l₂).Nodup)
    (hxa : x ≠ a) (hxd : x ≠ d) :
    ((l₁ ++ d :: a :: l₂).idxOf x < (l₁ ++ d :: a :: l₂).idxOf k ↔
      (l₁ ++ a :: d :: l₂).idxOf x < (l₁ ++ a :: d :: l₂).idxOf k) ∧
    ((l₁ ++ d :: a :: l₂).idxOf k < (l₁ ++ d :: a :: l₂).idxOf x ↔
      (l₁ ++ a :: d :: l₂).idxOf k < (l₁ ++ a :: d :: l₂).idxOf x) := by
  obtain ⟨hPa, hPd, hQd, hQa, hrest⟩ := idxOf_exchange hnd
  obtain ⟨hQx, hside⟩ := hrest x hxa hxd
  rw [hQx]
  -- the two lines that moved stand next to each other, both on one side of the line
  by_cases hka : k = a
  · rw [hka, hPa, hQa]
    omega
  by_cases hkd : k = d
  · rw [hkd, hPd, hQd]
    omega
  rw [(hrest k hka hkd).1]
  exact ⟨Iff.rfl, Iff.rfl⟩

theorem after_swapLinks {es : Array Entry} {a d : Nat} (had : a ≠ d) (ha : a < es.size)
    (hd : d < es.size) (i : Nat) :
    ((swapLinks es a d)[i]?).bind (·.after) =
      if i = a then (es[d]?).bind (·.after) else if i = d then some a
      else (es[i]?).bind (·.after) := by
  simp only [swapLinks, Array.getElem?_modify]
  by_cases hia : i = a
  · subst hia
    simp [Ne.symm had, ha]
  · by_cases hid : i = d
    · subst hid
      simp [hia, hd, Ne.symm hia]
    · simp [hia, hid, Ne.symm hia, Ne.symm hid]

theorem before_swapLinks {es : Array Entry} {a d : Nat} (had : a ≠ d) (ha : a < es.size)
    (hd : d < es.size) (i : Nat) :
    ((swapLinks es a d)[i]?).bind (·.before) =
      if i = a then some d else if i = d then (es[a]?).bind (·.before)
      else (es[i]?).bind (·.before) := by
  simp only [swapLinks, Array.getElem?_modify]
  by_cases hia : i = a
  · subst hia
    simp [Ne.symm had, ha]
  · by_cases hid : i = d
    · subst hid
      simp [hia, hd, Ne.symm hia]
    · simp [hia, hid, Ne.symm hia, Ne.symm hid]

theorem LinksInOrder.exchange {es : Array Entry} {l₁ l₂ : List Nat} {a d : Nat}
    (h : LinksInOrder ⟨es, l₁ ++ a :: d :: l₂⟩) :
    LinksInOrder ⟨swapLinks es a d, l₁ ++ d :: a :: l₂⟩ := by
  obtain ⟨hPa, hPd, hQd, hQa, hrest⟩ := idxOf_exchange h.nodup
  have ha : a < es.size := h.mem_order.mp (by simp)
  have hd : d < es.size := h.mem_order.mp (by simp)
  have had : a ≠ d := by
    rintro rfl
    omega
  have hafter : ∀ i k, (es[i]?).bind (·.after) = some k →
      k < es.size ∧ (l₁ ++ a :: d :: l₂).idxOf i < (l₁ ++ a :: d :: l₂).idxOf k :=
    h.after_later
  have hbefore : ∀ i k, (es[i]?).bind (·.before) = some k →
      k < es.size ∧ (l₁ ++ a :: d :: l₂).idxOf k < (l₁ ++ a :: d :: l₂).idxOf i :=
    h.before_earlier
  have hsize : (swapLinks es a d).size = es.size := size_swapLinks es a d
  refine ⟨?_, fun i k hik => ?_, fun i k hik => ?_⟩
  · show (l₁ ++ d :: a :: l₂).Perm (List.range (swapLinks es a d).size)
    rw [hsize]
    exact (List.Perm.append_left l₁ (List.Perm.swap a d l₂)).trans h.arranged
  · change ((swapLinks es a d)[i]?).bind (·.after) = some k at hik
    show k < (swapLinks es a d).size ∧
      (l₁ ++ d :: a :: l₂).idxOf i < (l₁ ++ d :: a :: l₂).idxOf k
    rw [hsize]
    rw [after_swapLinks had ha hd] at hik
    by_cases hia : i = a
    · -- the addition now stands where the deletion stood and takes its later neighbour
      rw [if_pos hia] at hik
      obtain ⟨hk, hlt⟩ := hafter d k hik
      have hka : k ≠ a := by
        rintro rfl
        omega
      have hkd : k ≠ d := by
        rintro rfl
        omega
      rw [hia, (hrest k hka hkd).1]
      exact ⟨hk, by omega⟩
    rw [if_neg hia] at hik
    by_cases hid : i = d
    · rw [if_pos hid] at hik
      cases hik
      rw [hid]
      exact ⟨ha, by omega⟩
    rw [if_neg hid] at hik
    obtain ⟨hk, hlt⟩ := hafter i k hik
    exact ⟨hk, (idxOf_exchange_lt h.nodup hia hid).1.mpr hlt⟩
  · change ((swapLinks es a d)[i]?).bind (·.before) = some k at hik
    show k < (swapLinks es a d).size ∧
      (l₁ ++ d :: a :: l₂).idxOf k < (l₁ ++ d :: a :: l₂).idxOf i
    rw [hsize]
    rw [before_swapLinks had ha hd] at hik
    by_cases hia : i = a
    · rw [if_pos hia] at hik
      cases hik
      rw [hia]
      exact ⟨hd, by omega⟩
    rw [if_neg hia] at hik
    by_cases hid : i = d
    · -- the deletion now stands where the addition stood and takes its earlier neighbour
      rw [if_pos hid] at hik
      obtain ⟨hk, hlt⟩ := hbefore a k hik
      have hka : k ≠ a := by
        rintro rfl
        omega
      have hkd : k ≠ d := by
        rintro rfl
        omega
      rw [hid, (hrest k hka hkd).1]
      exact ⟨hk, by omega⟩
    rw [if_neg hid] at hik
    obtain ⟨hk, hlt⟩ := hbefore i k hik
    exact ⟨hk, (idxOf_exchange_lt h.nodup hia hid).2.mpr hlt⟩

theorem linksInOrder_sweep (es : Array Entry) (c : Nat) (r done : List Nat)
    (h : LinksInOrder ⟨es, done ++ c :: r⟩) :
    LinksInOrder ⟨(sweep es c r).1, done ++ (sweep es c r).2.1⟩ := by
  induction r generalizing es c done with
  | nil => exact h
  | cons b r ih =>
    rw [sweep_cons]
    split
    · have h' := ih (swapLinks es c b) c (done ++ [b]) (by simpa using h.exchange)
      simpa using h'
    · have h' := ih es b (done ++ [c]) (by simpa using h)
      simpa using h'

theorem LinksInOrder.sweepAll {t : Strand} (h : t.LinksInOrder) : t.sweepAll.1.LinksInOrder := by
  cases ho : t.order with
  | nil => rwa [sweepAll_nil ho]
  | cons c r =>
    rw [sweepAll_cons ho]
    have h' : LinksInOrder ⟨t.entries, [] ++ c :: r⟩ := by simpa [← ho] using h
    simpa using linksInOrder_sweep t.entries c r [] h'

theorem LinksInOrder.sweepUntilStill {t : Strand} (h : t.LinksInOrder) (sweeps : Nat) :
    (Strand.sweepUntilStill sweeps t).1.LinksInOrder := by
  induction sweeps generalizing t with
  | zero => exact h
  | succ sweeps ih =>
    simp only [Strand.sweepUntilStill]
    split
    · exact h.sweepAll
    · exact ih h.sweepAll

theorem linksInOrder_swept (ls : List Line) (sweeps : Nat) :
    (Strand.sweepUntilStill sweeps (ofLines ls)).1.LinksInOrder :=
  (linksInOrder_ofLines ls).sweepUntilStill sweeps

section Walks

variable (step : Nat → Option Nat) (skip : Nat → Bool)

@[simp] theorem walk_none (fuel : Nat) : walk step skip fuel none = none := by
  cases fuel <;> rfl

theorem walk_fuel_eq (μ : Nat → Nat) (hμ : ∀ i k, step i = some k → μ k < μ i) :
    ∀ {fuel fuel' i}, μ i < fuel → μ i < fuel' →
      walk step skip fuel (some i) = walk step skip fuel' (some i)
  | 0, _, _, hf, _ => absurd hf (Nat.not_lt_zero _)
  | _, 0, _, _, hf' => absurd hf' (Nat.not_lt_zero _)
  | fuel + 1, fuel' + 1, i, hf, hf' => by
    simp only [walk]
    split
    · cases hs : step i with
      | none => simp
      | some k =>
        have hk := hμ i k hs
        exact walk_fuel_eq μ hμ (by omega) (by omega)
    · rfl

theorem walk_measure_le (μ : Nat → Nat) (hμ : ∀ i k, step i = some k → μ k < μ i) :
    ∀ {fuel i j}, walk step skip fuel (some i) = some j → μ j ≤ μ i
  | 0, _, _, h => by simp [walk] at h
  | fuel + 1, i, j, h => by
    simp only [walk] at h
    split at h
    · cases hs : step i with
      | none => simp [hs] at h
      | some k =>
        rw [hs] at h
        have hk := hμ i k hs
        have := walk_measure_le μ hμ h
        omega
    · cases h
      exact Nat.le_refl _

end Walks

/-- How many lines of the current order stand after a slot: each step of a forward walk
lowers it. -/
def ahead (t : Strand) (i : Nat) : Nat := t.size - t.order.idxOf i - 1

theorem LinksInOrder.ahead_lt {t : Strand} (h : t.LinksInOrder) {i k : Nat}
    (hk : t.after i = some k) : t.ahead k < t.ahead i := by
  obtain ⟨hks, hlt⟩ := h.after_later i k hk
  have := h.idxOf_lt hks
  unfold ahead
  omega

theorem LinksInOrder.idxOf_lt_of_before {t : Strand} (h : t.LinksInOrder) {i k : Nat}
    (hk : t.before i = some k) : t.order.idxOf k < t.order.idxOf i :=
  (h.before_earlier i k hk).2

theorem ahead_lt_size {t : Strand} {k : Nat} (hk : k < t.size) : t.ahead k < t.size := by
  unfold ahead
  omega

end Strand

def FuelSuffices {α : Type} (run : Nat → α) (n : Nat) : Prop :=
  ∀ fuel, n ≤ fuel → run fuel = run n

namespace Strand

variable {t : Strand}

theorem LinksInOrder.walk_after (h : t.LinksInOrder) (skip : Nat → Bool) (i : Nat) :
    FuelSuffices (fun fuel => walk t.after skip fuel (t.after i)) t.size := by
  intro fuel hfuel
  cases hk : t.after i with
  | none => simp
  | some k =>
    have hks := ahead_lt_size (h.after_later i k hk).1
    exact walk_fuel_eq t.after skip t.ahead (fun _ _ => h.ahead_lt) (by omega) hks

theorem LinksInOrder.walk_before (h : t.LinksInOrder) (skip : Nat → Bool) (i : Nat) :
    FuelSuffices (fun fuel => walk t.before skip fuel (t.before i)) t.size := by
  intro fuel hfuel
  cases hk : t.before i with
  | none => simp
  | some k =>
    have hks := h.idxOf_lt (h.before_earlier i k hk).1
    exact walk_fuel_eq t.before skip t.order.idxOf (fun _ _ => h.idxOf_lt_of_before)
      (by omega) hks

end Strand

namespace Sides

variable {s : Sides}

section Rebuild

variable (μ : Nat → Nat)

@[simp] theorem writeReplacements_none (fuel : Nat) (st : Rebuild) :
    s.writeReplacements fuel st none = st := by
  cases fuel <;> rfl

@[simp] theorem collectBefore_none (fuel : Nat) (st : Rebuild) :
    s.collectBefore fuel st none = (st, []) := by
  cases fuel <;> rfl

theorem writeAfter_none (a : Alignment) (fuel : Nat) (st : Rebuild) :
    s.writeAfter a fuel st none = st := by
  cases fuel with
  | zero => rfl
  | succ fuel => simp [writeAfter, Strand.walkOn]

theorem writeReplacements_fuel_eq (hμ : ∀ i k, s.patch.after i = some k → μ k < μ i) :
    ∀ {fuel fuel' i} (st : Rebuild), μ i < fuel → μ i < fuel' →
      s.writeReplacements fuel st (some i) = s.writeReplacements fuel' st (some i)
  | 0, _, _, _, hf, _ => absurd hf (Nat.not_lt_zero _)
  | _, 0, _, _, _, hf' => absurd hf' (Nat.not_lt_zero _)
  | fuel + 1, fuel' + 1, i, st, hf, hf' => by
    simp only [writeReplacements]
    split
    · cases hs : s.patch.after i with
      | none => simp
      | some k =>
        have hk := hμ i k hs
        exact writeReplacements_fuel_eq hμ _ (by omega) (by omega)
    · rfl

theorem collectBefore_fuel_eq (hμ : ∀ i k, s.patch.before i = some k → μ k < μ i) :
    ∀ {fuel fuel' i} (st : Rebuild), μ i < fuel → μ i < fuel' →
      s.collectBefore fuel st (some i) = s.collectBefore fuel' st (some i)
  | 0, _, _, _, hf, _ => absurd hf (Nat.not_lt_zero _)
  | _, 0, _, _, _, hf' => absurd hf' (Nat.not_lt_zero _)
  | fuel + 1, fuel' + 1, i, st, hf, hf' => by
    simp only [collectBefore]
    split
    · cases hs : s.patch.before i with
      | none => simp
      | some k =>
        have hk := hμ i k hs
        rw [collectBefore_fuel_eq hμ _ (by omega : μ k < fuel) (by omega : μ k < fuel')]
    · rfl

def scanMeasure : Option Nat → Nat
  | none => 0
  | some i => μ i + 1

theorem writeAfter_fuel_eq (hμ : ∀ i k, s.patch.after i = some k → μ k < μ i)
    (a : Alignment) :
    ∀ {fuel fuel' cur} (st : Rebuild), scanMeasure μ cur ≤ fuel → scanMeasure μ cur ≤ fuel' →
      s.writeAfter a fuel st cur = s.writeAfter a fuel' st cur
  | 0, fuel', cur, st, hf, _ => by
    cases cur with
    | none => rw [writeAfter_none, writeAfter_none]
    | some i => simp [scanMeasure] at hf
  | fuel + 1, 0, cur, st, _, hf' => by
    cases cur with
    | none => rw [writeAfter_none, writeAfter_none]
    | some i => simp [scanMeasure] at hf'
  | fuel + 1, fuel' + 1, cur, st, hf, hf' => by
    simp only [writeAfter]
    split
    · next j hj =>
      split
      · -- the scan stopped at a slot no higher than where it started, and goes on after it
        have hle : scanMeasure μ (some j) ≤ scanMeasure μ cur := by
          cases cur with
          | none => simp [Strand.walkOn] at hj
          | some i =>
            have := Strand.walk_measure_le s.patch.after _ μ hμ hj
            simp only [scanMeasure]
            omega
        have hnext : scanMeasure μ (s.patch.after j) < scanMeasure μ (some j) := by
          cases hs : s.patch.after j with
          | none => simp [scanMeasure]
          | some k =>
            have := hμ j k hs
            simp only [scanMeasure]
            omega
        exact writeAfter_fuel_eq hμ a _ (by omega) (by omega)
      · rfl
    · rfl

end Rebuild

variable (h : s.patch.LinksInOrder)
include h

theorem writeReplacements_ends (st : Rebuild) (j : Nat) :
    FuelSuffices (fun fuel => s.writeReplacements fuel st (s.patch.after j)) s.patch.size := by
  intro fuel hfuel
  cases hk : s.patch.after j with
  | none => simp
  | some k =>
    have hks := Strand.ahead_lt_size (h.after_later j k hk).1
    exact writeReplacements_fuel_eq s.patch.ahead (fun _ _ => h.ahead_lt) st (by omega) hks

theorem collectBefore_ends (st : Rebuild) (j : Nat) :
    FuelSuffices (fun fuel => s.collectBefore fuel st (s.patch.before j)) s.patch.size := by
  intro fuel hfuel
  cases hk : s.patch.before j with
  | none => simp
  | some k =>
    have hks := h.idxOf_lt (h.before_earlier j k hk).1
    exact collectBefore_fuel_eq s.patch.order.idxOf (fun _ _ => h.idxOf_lt_of_before) st
      (by omega) hks

theorem writeAfter_ends (a : Alignment) (st : Rebuild) (j : Nat) :
    FuelSuffices (fun fuel => s.writeAfter a fuel st (s.patch.after j)) s.patch.size := by
  intro fuel hfuel
  have hstart : scanMeasure s.patch.ahead (s.patch.after j) ≤ s.patch.size := by
    cases hk : s.patch.after j with
    | none => simp [scanMeasure]
    | some k =>
      have := Strand.ahead_lt_size (h.after_later j k hk).1
      simp only [scanMeasure]
      omega
  exact writeAfter_fuel_eq s.patch.ahead (fun _ _ => h.ahead_lt) a st (by omega) hstart

end Sides

theorem Alignment.count_le (a : Alignment) : a.count ≤ a.ofSource.size := by
  simpa [Alignment.count] using List.length_filter_le Option.isSome a.ofSource.toList

theorem Alignment.patchCount_le (a : Alignment) : a.patchCount ≤ a.ofPatch.size := by
  simpa [Alignment.patchCount] using List.length_filter_le Option.isSome a.ofPatch.toList

namespace Sides

variable {s : Sides}

def room (s : Sides) (a : Alignment) : Nat :=
  min (s.source.size - a.count) (s.patch.size - a.patchCount)

theorem room_adjacentSweep {a : Alignment} (h : s.Sound a) (src : List Nat)
    (hn : (s.adjacentSweep a src).2 ≠ 0) :
    s.room (s.adjacentSweep a src).1 < s.room a := by
  have hext := adjacentSweep_extends h src
  have hc := Alignment.count_le (s.adjacentSweep a src).1
  have hp := Alignment.patchCount_le (s.adjacentSweep a src).1
  rw [hext.sound.size_source] at hc
  rw [hext.sound.size_patch] at hp
  unfold room
  rw [hext.count] at hc ⊢
  rw [hext.patchCount] at hp ⊢
  omega

theorem adjacentRepeat_fuel_eq (src : List Nat) :
    ∀ {fuel fuel' : Nat} {a : Alignment} {m : Nat}, s.Sound a → s.room a ≤ m → m < fuel →
      m < fuel' → s.adjacentRepeat src fuel a = s.adjacentRepeat src fuel' a
  | 0, _, _, _, _, _, hf, _ => absurd hf (Nat.not_lt_zero _)
  | _, 0, _, _, _, _, _, hf' => absurd hf' (Nat.not_lt_zero _)
  | fuel + 1, fuel' + 1, a, m, h, hm, hf, hf' => by
    have hroom := room_adjacentSweep h src
    have hsound := (adjacentSweep_extends h src).sound
    rcases hsw : s.adjacentSweep a src with ⟨a', n⟩
    rw [hsw] at hroom hsound
    dsimp only at hroom hsound
    simp only [adjacentRepeat, hsw]
    split
    · rfl
    · next hn =>
      have hle : s.room a' ≤ m - 1 := by
        have := hroom hn
        omega
      rw [adjacentRepeat_fuel_eq src hsound hle (by omega) (by omega : m - 1 < fuel')]

theorem adjacentRepeat_ends {a : Alignment} (h : s.Sound a) (src : List Nat) :
    FuelSuffices (fun fuel => s.adjacentRepeat src fuel a)
      (min s.source.size s.patch.size + 1) := by
  intro fuel hfuel
  have hroom : s.room a ≤ min s.source.size s.patch.size := by
    unfold room
    omega
  exact adjacentRepeat_fuel_eq src h hroom (by omega) (by omega)

end Sides

namespace Script

theorem deletedRun_fuel_eq (old : List String) (deleted : Nat → Bool) :
    ∀ {fuel fuel' i}, i < fuel → i < fuel' →
      deletedRun old deleted fuel (some i) = deletedRun old deleted fuel' (some i)
  | 0, _, _, hf, _ => absurd hf (Nat.not_lt_zero _)
  | _, 0, _, _, hf' => absurd hf' (Nat.not_lt_zero _)
  | fuel + 1, fuel' + 1, i, hf, hf' => by
    simp only [deletedRun]
    split
    · by_cases hi : i = 0
      · cases fuel <;> cases fuel' <;> simp [hi, deletedRun]
      · simp only [hi, if_false]
        rw [deletedRun_fuel_eq old deleted (by omega : i - 1 < fuel) (by omega : i - 1 < fuel')]
    · rfl

theorem deletedRun_ends (old : List String) (deleted : Nat → Bool) {i : Nat}
    (hi : i < old.length) :
    FuelSuffices (fun fuel => deletedRun old deleted fuel (some i)) old.length :=
  fun _ hfuel => deletedRun_fuel_eq old deleted (by omega) hi

end Script

theorem Patch.linksInOrder_read (p : Policy) (src : List Line) (text : String) :
    (Patch.read p src text).LinksInOrder := by
  unfold Patch.read Strand.reorder
  exact Strand.linksInOrder_swept _ _

theorem Sides.ofTexts_linksInOrder (p : Policy) (fuzzy : Bool) (source patch : String) :
    (Sides.ofTexts p fuzzy source patch).source.LinksInOrder ∧
      (Sides.ofTexts p fuzzy source patch).patch.LinksInOrder := by
  rw [Sides.source_ofTexts, Sides.patch_ofTexts]
  exact ⟨Strand.linksInOrder_ofLines _, Patch.linksInOrder_read _ _ _⟩

/-- Remembered neighbours never run in a circle. However many sweeps reorder a strand, the
line remembered after a slot stands later in the current order and the line remembered
before it earlier. So every loop that follows them ends before its fuel runs out: the
walks past skipped lines within as many steps as the strand has lines, the rebuild's
scans for replacements and for additions before and after a line within as many rounds
as the patch has lines, the runs of deleted old lines within as many as the old text has,
and the adjacent pass within one sweep more than the smaller side has lines. The sides
of every patch applied have their neighbours in order. -/
theorem neighbour_loops_end :
    (∀ (ls : List Line) (sweeps : Nat),
      (Strand.sweepUntilStill sweeps (Strand.ofLines ls)).1.LinksInOrder) ∧
    (∀ t : Strand, t.LinksInOrder → ∀ (skip : Nat → Bool) (i : Nat),
      FuelSuffices (fun fuel => Strand.walk t.after skip fuel (t.after i)) t.size ∧
        FuelSuffices (fun fuel => Strand.walk t.before skip fuel (t.before i)) t.size) ∧
    (∀ s : Sides, s.patch.LinksInOrder → ∀ (a : Alignment) (st : Rebuild) (j : Nat),
      FuelSuffices (fun fuel => s.writeReplacements fuel st (s.patch.after j)) s.patch.size ∧
        FuelSuffices (fun fuel => s.writeAfter a fuel st (s.patch.after j)) s.patch.size ∧
        FuelSuffices (fun fuel => s.collectBefore fuel st (s.patch.before j)) s.patch.size) ∧
    (∀ (s : Sides) (a : Alignment), s.Sound a → ∀ src : List Nat,
      FuelSuffices (fun fuel => s.adjacentRepeat src fuel a)
        (min s.source.size s.patch.size + 1)) ∧
    (∀ (old : List String) (deleted : Nat → Bool) (i : Nat), i < old.length →
      FuelSuffices (fun fuel => Script.deletedRun old deleted fuel (some i)) old.length) ∧
    (∀ (p : Policy) (fuzzy : Bool) (source patch : String),
      (Sides.ofTexts p fuzzy source patch).source.LinksInOrder ∧
        (Sides.ofTexts p fuzzy source patch).patch.LinksInOrder) :=
  ⟨Strand.linksInOrder_swept,
    fun _ h skip i => ⟨h.walk_after skip i, h.walk_before skip i⟩,
    fun _ h a st j => ⟨Sides.writeReplacements_ends h st j, Sides.writeAfter_ends h a st j,
      Sides.collectBefore_ends h st j⟩,
    fun _ _ h src => Sides.adjacentRepeat_ends h src,
    fun old deleted _ hi => Script.deletedRun_ends old deleted hi,
    Sides.ofTexts_linksInOrder⟩

theorem neighbour_loops_end_example :
    let s := Sides.ofTexts .whitespace true "a\nb\nc" "  a\n+ x\n- b\n  c"
    s.patch.LinksInOrder ∧
      FuelSuffices (fun fuel => s.writeAfter (Alignment.empty 3 4) fuel
        { out := #[], used := #[false, false, false, false] } (s.patch.after 0)) s.patch.size :=
  ⟨(neighbour_loops_end.2.2.2.2.2 _ _ _ _).2,
    (neighbour_loops_end.2.2.1 _ (neighbour_loops_end.2.2.2.2.2 _ _ _ _).2 _ _ _).2.1⟩

end LinePatch
