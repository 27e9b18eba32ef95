import LinePatch.Strand
import Mathlib.Data.List.Perm.Basic

/-!
# Reordering settles every addition behind the deletions after it

A sweep carries an addition to the right past the deletions that follow it, so each
deletion with an addition before it in its run moves one place per sweep. The largest
number of additions standing before a deletion of the same run, its *debt*, therefore
falls by one with every sweep, and the strand settles before the sweeps run out: no
addition is left directly before a deletion. A sweep reads only the kinds of lines and
never changes a line, so two strands with the same kinds are reordered alike.
-/

namespace LinePatch

namespace Strand

/-- The line held in a slot of an entry array. -/
def lineIn (es : Array Entry) (i : Nat) : Option Line := (es[i]?).map (·.line)

/-- The kind of the line held in a slot of an entry array. -/
def kindIn (es : Array Entry) (i : Nat) : Option LineKind := (lineIn es i).map (·.kind)

/-- An addition stands before a deletion. -/
def Inverted (κ : Nat → Option LineKind) (x y : Nat) : Prop :=
  κ x = some .add ∧ κ y = some .delete

instance (κ : Nat → Option LineKind) (x y : Nat) : Decidable (Inverted κ x y) :=
  inferInstanceAs (Decidable (_ ∧ _))

/-- No addition stands directly before a deletion. -/
def Settled (κ : Nat → Option LineKind) (order : List Nat) : Prop :=
  order.IsChain fun x y => ¬Inverted κ x y

def debt (κ : Nat → Option LineKind) : Nat → List Nat → Nat
  | _, [] => 0
  | a, x :: r =>
    if κ x = some .add then debt κ (a + 1) r
    else if κ x = some .delete then max a (debt κ a r)
    else debt κ 0 r

theorem outOfOrder_eq (es : Array Entry) (a d : Nat) :
    outOfOrder es a d = decide (Inverted (kindIn es) a d) := by
  unfold outOfOrder Inverted kindIn lineIn
  rw [Bool.eq_iff_iff]
  simp [Option.map_map, Function.comp_def]

theorem lineIn_swapLinks (es : Array Entry) (a d : Nat) :
    lineIn (swapLinks es a d) = lineIn es := by
  funext i
  simp only [lineIn, swapLinks, Array.getElem?_modify]
  split <;> split <;> simp_all [Option.map_map, Function.comp_def]

theorem kindIn_swapLinks (es : Array Entry) (a d : Nat) :
    kindIn (swapLinks es a d) = kindIn es := by
  funext i
  simp [kindIn, lineIn_swapLinks]

theorem size_swapLinks (es : Array Entry) (a d : Nat) : (swapLinks es a d).size = es.size := by
  simp [swapLinks]

section Sweep

theorem sweep_cons (es : Array Entry) (c b : Nat) (r : List Nat) :
    sweep es c (b :: r) =
      if Inverted (kindIn es) c b then
        ((sweep (swapLinks es c b) c r).1, b :: (sweep (swapLinks es c b) c r).2.1,
          (sweep (swapLinks es c b) c r).2.2 + 1)
      else ((sweep es b r).1, c :: (sweep es b r).2.1, (sweep es b r).2.2) := by
  rw [sweep, outOfOrder_eq]
  by_cases h : Inverted (kindIn es) c b <;> simp [h]

theorem lineIn_sweep (es : Array Entry) (c : Nat) (r : List Nat) :
    lineIn (sweep es c r).1 = lineIn es := by
  induction r generalizing es c with
  | nil => rfl
  | cons b r ih =>
    rw [sweep_cons]
    split
    · rw [ih, lineIn_swapLinks]
    · rw [ih]

theorem sweep_congr {es₁ es₂ : Array Entry} (h : kindIn es₁ = kindIn es₂) (c : Nat)
    (r : List Nat) : (sweep es₁ c r).2 = (sweep es₂ c r).2 := by
  induction r generalizing es₁ es₂ c with
  | nil => rfl
  | cons b r ih =>
    have hswap : kindIn (swapLinks es₁ c b) = kindIn (swapLinks es₂ c b) := by
      rw [kindIn_swapLinks, kindIn_swapLinks, h]
    rw [sweep_cons, sweep_cons, h]
    split
    · rw [ih hswap]
    · rw [ih h]

theorem sweep_perm (es : Array Entry) (c : Nat) (r : List Nat) :
    (sweep es c r).2.1.Perm (c :: r) := by
  induction r generalizing es c with
  | nil => exact List.Perm.refl _
  | cons b r ih =>
    rw [sweep_cons]
    split
    · exact ((ih _ c).cons b).trans (List.Perm.swap c b r)
    · exact (ih es b).cons c

theorem sweep_of_settled {es : Array Entry} {c : Nat} {r : List Nat}
    (h : Settled (kindIn es) (c :: r)) : sweep es c r = (es, c :: r, 0) := by
  induction r generalizing c with
  | nil => rfl
  | cons b r ih =>
    simp only [Settled, List.isChain_cons_cons] at h
    rw [sweep_cons, if_neg h.1, ih h.2]

theorem settled_of_sweep_zero {es : Array Entry} {c : Nat} {r : List Nat}
    (h : (sweep es c r).2.2 = 0) : Settled (kindIn es) (c :: r) := by
  induction r generalizing es c with
  | nil => exact List.IsChain.singleton c
  | cons b r ih =>
    rw [sweep_cons] at h
    by_cases hinv : Inverted (kindIn es) c b
    · rw [if_pos hinv] at h
      simp at h
    · rw [if_neg hinv] at h
      exact List.isChain_cons_cons.mpr ⟨hinv, ih h⟩

theorem debt_sweep (κ : Nat → Option LineKind) {es : Array Entry} (hκ : kindIn es = κ)
    (c : Nat) (r : List Nat) (a : Nat) (ha : κ c = some .delete → a = 0) :
    debt κ a (sweep es c r).2.1 = debt κ a (c :: r) - 1 := by
  induction r generalizing es c a with
  | nil =>
    simp only [sweep, debt]
    split
    · rfl
    · split
      · next hd => simp [ha hd]
      · rfl
  | cons b r ih =>
    rw [sweep_cons, hκ]
    by_cases hinv : Inverted κ c b
    · -- the carried addition `c` passes the deletion `b`
      obtain ⟨hc, hb⟩ := hinv
      have hrest := ih (hκ ▸ kindIn_swapLinks es c b) c a (by simp [hc])
      rw [if_pos ⟨hc, hb⟩]
      simp only [debt, hc, hb, if_true, Option.some.injEq, reduceCtorEq, if_false] at hrest ⊢
      rw [hrest]
      omega
    · rw [if_neg hinv]
      simp only [Inverted, not_and] at hinv
      by_cases hc : κ c = some .add
      · have hb : κ b ≠ some .delete := hinv hc
        have hrest := ih hκ b (a + 1) (fun h => absurd h hb)
        simp only [debt, hc, if_true] at hrest ⊢
        exact hrest
      · have hrest := ih hκ b 0 (fun _ => rfl)
        by_cases hd : κ c = some .delete
        · simp only [debt, hd, Option.some.injEq, reduceCtorEq, if_true, if_false, ha hd] at hrest ⊢
          omega
        · simp only [debt, hd, hc, if_false] at hrest ⊢
          exact hrest

end Sweep

theorem debt_le_length (κ : Nat → Option LineKind) (a : Nat) (l : List Nat) :
    debt κ a l ≤ a + l.length := by
  induction l generalizing a with
  | nil => simp [debt]
  | cons x r ih =>
    simp only [debt, List.length_cons]
    split
    · have := ih (a + 1)
      omega
    · split
      · have := ih a
        omega
      · have := ih 0
        omega

theorem settled_of_debt_zero (κ : Nat → Option LineKind) {a : Nat} {l : List Nat}
    (h : debt κ a l = 0) : Settled κ l := by
  induction l generalizing a with
  | nil => exact List.IsChain.nil
  | cons x r ih =>
    cases r with
    | nil => exact List.IsChain.singleton x
    | cons y r =>
      refine List.isChain_cons_cons.mpr ⟨?_, ?_⟩
      · rintro ⟨hx, hy⟩
        simp only [debt, hx, hy, if_true, Option.some.injEq, reduceCtorEq, if_false] at h
        omega
      · rw [debt] at h
        split at h
        · exact ih h
        · split at h
          · exact @ih a (by omega)
          · exact ih h

section Sweeps

theorem sweepAll_nil {s : Strand} (h : s.order = []) : s.sweepAll = (s, 0) := by
  rw [sweepAll, h]

theorem sweepAll_cons {s : Strand} {c : Nat} {r : List Nat} (h : s.order = c :: r) :
    s.sweepAll = (⟨(sweep s.entries c r).1, (sweep s.entries c r).2.1⟩, (sweep s.entries c r).2.2) := by
  rw [sweepAll, h]

theorem lineIn_sweepAll (s : Strand) : lineIn s.sweepAll.1.entries = lineIn s.entries := by
  cases h : s.order with
  | nil => rw [sweepAll_nil h]
  | cons c r => rw [sweepAll_cons h]; exact lineIn_sweep _ _ _

theorem kindIn_sweepAll (s : Strand) : kindIn s.sweepAll.1.entries = kindIn s.entries := by
  funext i
  simp only [kindIn, lineIn_sweepAll]

theorem sweepAll_perm (s : Strand) : s.sweepAll.1.order.Perm s.order := by
  cases h : s.order with
  | nil => rw [sweepAll_nil h, h]
  | cons c r => rw [sweepAll_cons h]; exact sweep_perm _ _ _

theorem sweepAll_of_settled {s : Strand} (h : Settled (kindIn s.entries) s.order) :
    s.sweepAll = (s, 0) := by
  cases hs : s.order with
  | nil => exact sweepAll_nil hs
  | cons c r =>
    rw [hs] at h
    rw [sweepAll_cons hs, sweep_of_settled h]
    cases s
    simp_all

theorem settled_of_sweepAll_zero {s : Strand} (h : s.sweepAll.2 = 0) :
    Settled (kindIn s.entries) s.order := by
  cases hs : s.order with
  | nil => exact List.IsChain.nil
  | cons c r =>
    rw [sweepAll_cons hs] at h
    exact settled_of_sweep_zero h

theorem debt_sweepAll (s : Strand) :
    debt (kindIn s.entries) 0 s.sweepAll.1.order = debt (kindIn s.entries) 0 s.order - 1 := by
  cases hs : s.order with
  | nil => simp [sweepAll_nil hs, hs, debt]
  | cons c r =>
    rw [sweepAll_cons hs]
    exact debt_sweep _ rfl c r 0 fun _ => rfl

theorem sweepUntilStill_settles (fuel : Nat) (s : Strand)
    (hfuel : debt (kindIn s.entries) 0 s.order < fuel) :
    lineIn (sweepUntilStill fuel s).1.entries = lineIn s.entries ∧
      (sweepUntilStill fuel s).1.order.Perm s.order ∧
      Settled (kindIn s.entries) (sweepUntilStill fuel s).1.order := by
  induction fuel generalizing s with
  | zero => omega
  | succ fuel ih =>
    have hlines := lineIn_sweepAll s
    have hkinds : kindIn s.sweepAll.1.entries = kindIn s.entries := by
      funext i
      simp only [kindIn, hlines]
    rcases hsw : s.sweepAll with ⟨s', n⟩
    rw [hsw] at hlines hkinds
    simp only [sweepUntilStill, hsw]
    split
    · next hn =>
      have hset := settled_of_sweepAll_zero (hsw ▸ hn : s.sweepAll.2 = 0)
      rw [sweepAll_of_settled hset] at hsw
      cases hsw
      exact ⟨rfl, List.Perm.refl _, hset⟩
    · next hn =>
      -- a sweep that swapped something found debt, and took one from it
      have hpos : 0 < debt (kindIn s.entries) 0 s.order := by
        rcases Nat.eq_zero_or_pos (debt (kindIn s.entries) 0 s.order) with h0 | h0
        · have hset := settled_of_debt_zero _ h0
          rw [sweepAll_of_settled hset] at hsw
          cases hsw
          exact absurd rfl hn
        · exact h0
      have hdebt := debt_sweepAll s
      rw [hsw] at hdebt
      have hperm := sweepAll_perm s
      rw [hsw] at hperm
      obtain ⟨h₁, h₂, h₃⟩ := ih s' (by rw [hkinds]; simp only at hdebt; omega)
      refine ⟨h₁.trans hlines, h₂.trans hperm, ?_⟩
      rw [← hkinds]
      exact h₃

theorem reorder_settles (s : Strand) :
    lineIn s.reorder.1.entries = lineIn s.entries ∧ s.reorder.1.order.Perm s.order ∧
      Settled (kindIn s.entries) s.reorder.1.order := by
  apply sweepUntilStill_settles
  have := debt_le_length (kindIn s.entries) 0 s.order
  omega

theorem reorder_of_settled {s : Strand} (h : Settled (kindIn s.entries) s.order) :
    s.reorder = (s, 0) := by
  unfold reorder
  simp only [sweepUntilStill, sweepAll_of_settled h, if_true]

theorem sweepUntilStill_congr (fuel : Nat) {s₁ s₂ : Strand}
    (hk : kindIn s₁.entries = kindIn s₂.entries) (ho : s₁.order = s₂.order) :
    kindIn (sweepUntilStill fuel s₁).1.entries = kindIn (sweepUntilStill fuel s₂).1.entries ∧
      (sweepUntilStill fuel s₁).1.order = (sweepUntilStill fuel s₂).1.order ∧
      (sweepUntilStill fuel s₁).2 = (sweepUntilStill fuel s₂).2 := by
  induction fuel generalizing s₁ s₂ with
  | zero => exact ⟨hk, ho, rfl⟩
  | succ fuel ih =>
    have hsame : s₁.sweepAll.1.order = s₂.sweepAll.1.order ∧ s₁.sweepAll.2 = s₂.sweepAll.2 := by
      cases hs : s₁.order with
      | nil => rw [sweepAll_nil hs, sweepAll_nil (ho ▸ hs), hs, ← ho, hs]; exact ⟨rfl, rfl⟩
      | cons c r =>
        rw [sweepAll_cons hs, sweepAll_cons (ho ▸ hs), sweep_congr hk]
        exact ⟨rfl, rfl⟩
    have hk' : kindIn s₁.sweepAll.1.entries = kindIn s₂.sweepAll.1.entries := by
      rw [kindIn_sweepAll, kindIn_sweepAll, hk]
    obtain ⟨h₁, h₂, h₃⟩ := ih hk' hsame.1
    rcases hs₁ : s₁.sweepAll with ⟨t₁, n₁⟩
    rcases hs₂ : s₂.sweepAll with ⟨t₂, n₂⟩
    rw [hs₁, hs₂] at hsame hk' h₁ h₂ h₃
    simp only at hsame hk' h₁ h₂ h₃
    simp only [sweepUntilStill, hs₁, hs₂, hsame.2]
    split
    · exact ⟨hk', hsame.1, rfl⟩
    · exact ⟨h₁, h₂, by rw [h₃]⟩

end Sweeps

section Folds

variable {β : Type} (g : β → Line → β)
  (hswap : ∀ st x y, x.kind = .add → y.kind = .delete → g (g st x) y = g (g st y) x)

include hswap

theorem foldl_filterMap_sweep (es : Array Entry) (c : Nat) (r : List Nat) (st : β) :
    ((sweep es c r).2.1.filterMap (lineIn es)).foldl g st =
      ((c :: r).filterMap (lineIn es)).foldl g st := by
  induction r generalizing es c st with
  | nil => rfl
  | cons b r ih =>
    rw [sweep_cons]
    split
    · next hinv =>
      obtain ⟨hc, hb⟩ := hinv
      obtain ⟨lc, hlc, hkc⟩ := Option.map_eq_some_iff.mp hc
      obtain ⟨lb, hlb, hkb⟩ := Option.map_eq_some_iff.mp hb
      have h := ih (swapLinks es c b) c (g st lb)
      rw [lineIn_swapLinks] at h
      simp only [List.filterMap_cons, hlb, hlc, List.foldl_cons] at h ⊢
      rw [h, hswap st lc lb hkc hkb]
    · simp only [List.filterMap_cons]
      cases lineIn es c with
      | none => exact ih es b st
      | some lc => exact ih es b _

theorem foldl_filterMap_sweepAll (s : Strand) (st : β) :
    (s.sweepAll.1.order.filterMap (lineIn s.entries)).foldl g st =
      (s.order.filterMap (lineIn s.entries)).foldl g st := by
  cases h : s.order with
  | nil => rw [sweepAll_nil h, h]
  | cons c r =>
    rw [sweepAll_cons h]
    exact foldl_filterMap_sweep g hswap _ _ _ _

theorem foldl_filterMap_sweepUntilStill (fuel : Nat) (s : Strand) (st : β) :
    ((sweepUntilStill fuel s).1.order.filterMap (lineIn s.entries)).foldl g st =
      (s.order.filterMap (lineIn s.entries)).foldl g st := by
  induction fuel generalizing s with
  | zero => rfl
  | succ fuel ih =>
    have hlines := lineIn_sweepAll s
    have hsweep := foldl_filterMap_sweepAll g hswap s st
    rcases hsw : s.sweepAll with ⟨s', n⟩
    rw [hsw] at hlines hsweep
    simp only [sweepUntilStill, hsw]
    split
    · exact hsweep
    · rw [← hlines, ih s', hlines]
      exact hsweep

end Folds

theorem lineIn_ofLines (ls : List Line) : lineIn (ofLines ls).entries = fun i => ls[i]? := by
  funext i
  simp only [lineIn, ofLines, List.getElem?_toArray, List.getElem?_map, List.getElem?_zipIdx,
    Option.map_map]
  cases ls[i]? <;> rfl

theorem kindIn_ofLines (ls : List Line) :
    kindIn (ofLines ls).entries = fun i => (ls[i]?).map (·.kind) := by
  funext i
  simp [kindIn, lineIn_ofLines]

@[simp] theorem order_ofLines (ls : List Line) : (ofLines ls).order = List.range ls.length := rfl

end Strand

/-- No addition stands directly before a deletion. -/
def Line.Settled (ls : List Line) : Prop :=
  ls.IsChain fun x y => ¬(x.kind = .add ∧ y.kind = .delete)

namespace Line

theorem filterMap_range_getElem? (ls : List Line) :
    (List.range ls.length).filterMap (ls[·]?) = ls := by
  induction ls with
  | nil => rfl
  | cons x xs ih =>
    rw [List.length_cons, List.range_succ_eq_map, List.filterMap_cons, List.filterMap_map]
    simpa [Function.comp_def] using ih

private theorem settled_filterMap_iff (ls : List Line) {σ : List Nat}
    (hσ : ∀ i ∈ σ, i < ls.length) :
    Strand.Settled (fun i => (ls[i]?).map (·.kind)) σ ↔ Settled (σ.filterMap (ls[·]?)) := by
  induction σ with
  | nil => exact ⟨fun _ => List.IsChain.nil, fun _ => List.IsChain.nil⟩
  | cons i σ ih =>
    have hi := hσ i List.mem_cons_self
    have hrest := ih fun j hj => hσ j (List.mem_cons_of_mem _ hj)
    cases σ with
    | nil =>
      simp only [List.filterMap_cons, List.getElem?_eq_getElem hi, List.filterMap_nil]
      exact ⟨fun _ => List.IsChain.singleton _, fun _ => List.IsChain.singleton _⟩
    | cons j σ =>
      have hj := hσ j (List.mem_cons_of_mem _ List.mem_cons_self)
      simp only [List.filterMap_cons, List.getElem?_eq_getElem hi, List.getElem?_eq_getElem hj]
        at hrest ⊢
      simp only [Strand.Settled, Settled, List.isChain_cons_cons, Strand.Inverted,
        List.getElem?_eq_getElem hi, List.getElem?_eq_getElem hj, Option.map_some,
        Option.some.injEq] at hrest ⊢
      rw [hrest]

theorem reorder_eq_filterMap (ls : List Line) :
    (reorder ls).1 = (Strand.ofLines ls).reorder.1.order.filterMap (ls[·]?) := by
  have h := (Strand.reorder_settles (Strand.ofLines ls)).1
  rw [Strand.lineIn_ofLines] at h
  simp only [reorder, Strand.lines]
  exact congrArg (List.filterMap · _) h

theorem reorder_order_perm (ls : List Line) :
    (Strand.ofLines ls).reorder.1.order.Perm (List.range ls.length) :=
  (Strand.reorder_settles (Strand.ofLines ls)).2.1

theorem reorder_perm (ls : List Line) : (reorder ls).1.Perm ls := by
  rw [reorder_eq_filterMap]
  have h := (reorder_order_perm ls).filterMap (ls[·]?)
  rwa [filterMap_range_getElem?] at h

theorem reorder_settled (ls : List Line) : Settled (reorder ls).1 := by
  have h := (Strand.reorder_settles (Strand.ofLines ls)).2.2
  rw [Strand.kindIn_ofLines] at h
  rw [reorder_eq_filterMap, ← settled_filterMap_iff ls]
  · exact h
  · intro i hi
    exact List.mem_range.mp ((reorder_order_perm ls).subset hi)

theorem reorder_ofLines_of_settled {ls : List Line} (h : Settled ls) :
    (Strand.ofLines ls).reorder = (Strand.ofLines ls, 0) := by
  have hs : Strand.Settled (Strand.kindIn (Strand.ofLines ls).entries)
      (Strand.ofLines ls).order := by
    rw [Strand.kindIn_ofLines, Strand.order_ofLines, settled_filterMap_iff ls
      (fun i hi => List.mem_range.mp hi), filterMap_range_getElem?]
    exact h
  exact Strand.reorder_of_settled hs

theorem reorder_of_settled {ls : List Line} (h : Settled ls) : reorder ls = (ls, 0) := by
  have hline : (Strand.ofLines ls).line? = fun i => ls[i]? := Strand.lineIn_ofLines ls
  simp only [reorder, reorder_ofLines_of_settled h, Strand.lines, Strand.order_ofLines, hline]
  congr 1
  exact filterMap_range_getElem? ls

theorem foldl_reorder {β : Type} (g : β → Line → β)
    (hswap : ∀ st x y, x.kind = .add → y.kind = .delete → g (g st x) y = g (g st y) x)
    (ls : List Line) (st : β) : (reorder ls).1.foldl g st = ls.foldl g st := by
  have h := Strand.foldl_filterMap_sweepUntilStill g hswap ((Strand.ofLines ls).order.length + 1)
    (Strand.ofLines ls) st
  rw [Strand.lineIn_ofLines, Strand.order_ofLines, filterMap_range_getElem?] at h
  rw [reorder_eq_filterMap]
  exact h

private theorem foldl_push_filter (Q : Line → Bool) (ls acc : List Line) :
    ls.foldl (fun acc l => if Q l then acc ++ [l] else acc) acc = acc ++ ls.filter Q := by
  induction ls generalizing acc with
  | nil => simp
  | cons l ls ih => by_cases hl : Q l <;> simp [hl, ih]

theorem filter_reorder (Q : Line → Bool)
    (hQ : ∀ x y, x.kind = .add → y.kind = .delete → Q x = false ∨ Q y = false) (ls : List Line) :
    (reorder ls).1.filter Q = ls.filter Q := by
  have h := foldl_reorder (fun acc l => if Q l then acc ++ [l] else acc)
    (fun st x y hx hy => by rcases hQ x y hx hy with h | h <;> simp [h]) ls []
  rwa [foldl_push_filter, foldl_push_filter, List.nil_append, List.nil_append] at h

theorem reorder_order_congr {ls₁ ls₂ : List Line}
    (h : ls₁.map (·.kind) = ls₂.map (·.kind)) :
    (Strand.ofLines ls₁).reorder.1.order = (Strand.ofLines ls₂).reorder.1.order := by
  have hlen : ls₁.length = ls₂.length := by simpa using congrArg List.length h
  have hk : Strand.kindIn (Strand.ofLines ls₁).entries = Strand.kindIn (Strand.ofLines ls₂).entries := by
    rw [Strand.kindIn_ofLines, Strand.kindIn_ofLines]
    funext i
    rw [← List.getElem?_map, ← List.getElem?_map, h]
  exact (Strand.sweepUntilStill_congr _ hk (by simp [hlen])).2.1.trans (by simp [Strand.reorder, hlen])

end Line

end LinePatch
