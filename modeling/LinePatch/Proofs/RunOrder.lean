import LinePatch.Proofs.SwappedPair

/-!
# Reordering sorts each run of changes

Reordering leaves every context line where it stands and rewrites each run of changes
between two context lines as its deletions followed by its additions, each group in the
order it was written. A swap moves one addition past one deletion of its run, so the swaps
made are the pairs of an addition and a later deletion of the same run, the run's
*inversions*: the swaps of a sweep and the inversions it leaves add up to the inversions it
found, and a settled order has none left.
-/

namespace LinePatch

section Runs

variable {α : Type} (κ : α → LineKind)

def deletionsAhead : List α → Nat
  | [] => 0
  | x :: r =>
    match κ x with
    | .context => 0
    | .add => deletionsAhead r
    | .delete => deletionsAhead r + 1

def runInversions : List α → Nat
  | [] => 0
  | x :: r => (if κ x = .add then deletionsAhead κ r else 0) + runInversions r

def settleRun (dels adds : List α) : List α → List α
  | [] => dels ++ adds
  | x :: r =>
    match κ x with
    | .context => dels ++ adds ++ x :: settleRun [] [] r
    | .delete => settleRun (dels ++ [x]) adds r
    | .add => settleRun dels (adds ++ [x]) r

def settleRuns (l : List α) : List α := settleRun κ [] [] l

theorem runInversions_cons (x : α) (r : List α) :
    runInversions κ (x :: r) = (if κ x = .add then deletionsAhead κ r else 0) + runInversions κ r :=
  rfl

variable {κ}

private theorem settled_append_adds {dels adds : List α} (hdels : ∀ x ∈ dels, κ x = .delete)
    (hadds : ∀ x ∈ adds, κ x = .add) :
    (dels ++ adds).IsChain fun x y => ¬(κ x = .add ∧ κ y = .delete) := by
  apply List.Pairwise.isChain
  rw [List.pairwise_append]
  refine ⟨?_, ?_, ?_⟩
  · exact List.pairwise_of_forall_mem_list fun x hx _ _ => by simp [hdels x hx]
  · exact List.pairwise_of_forall_mem_list fun _ _ y hy => by simp [hadds y hy]
  · intro x hx _ _
    simp [hdels x hx]

theorem settleRun_settled (r : List α) :
    ∀ dels adds : List α, (∀ x ∈ dels, κ x = .delete) → (∀ x ∈ adds, κ x = .add) →
      (settleRun κ dels adds r).IsChain fun x y => ¬(κ x = .add ∧ κ y = .delete) := by
  induction r with
  | nil => exact fun _ _ hdels hadds => settled_append_adds hdels hadds
  | cons x r ih =>
    intro dels adds hdels hadds
    cases hx : κ x with
    | context =>
      -- the run read so far is written out, and the context line starts a fresh one
      simp only [settleRun, hx]
      refine List.IsChain.append (settled_append_adds hdels hadds)
        (List.IsChain.cons (ih [] [] (by simp) (by simp)) fun _ _ => by simp [hx]) ?_
      intro _ _ y hy
      simp only [List.head?_cons, Option.mem_def, Option.some.injEq] at hy
      subst hy
      simp [hx]
    | delete =>
      simp only [settleRun, hx]
      exact ih _ _ (by simpa [or_imp, forall_and] using ⟨hdels, hx⟩) hadds
    | add =>
      simp only [settleRun, hx]
      exact ih _ _ hdels (by simpa [or_imp, forall_and] using ⟨hadds, hx⟩)

theorem filter_settleRun {k : LineKind} (hk : k ≠ .context) (r : List α) :
    ∀ dels adds : List α, (∀ x ∈ dels, κ x = .delete) → (∀ x ∈ adds, κ x = .add) →
      (settleRun κ dels adds r).filter (κ · != k) = (dels ++ adds ++ r).filter (κ · != k) := by
  induction r with
  | nil => intro dels adds _ _; simp [settleRun]
  | cons x r ih =>
    intro dels adds hdels hadds
    cases hx : κ x with
    | context =>
      simp only [settleRun, hx, List.filter_append, List.filter_cons]
      simp [ih [] [] (by simp) (by simp)]
    | delete =>
      -- the deletion passes the additions read so far, which this filter keeps apart
      simp only [settleRun, hx]
      rw [ih _ _ (by simpa [or_imp, forall_and] using ⟨hdels, hx⟩) hadds]
      have hcomm : ([x] ++ adds).filter (κ · != k) = (adds ++ [x]).filter (κ · != k) := by
        cases k with
        | context => exact absurd rfl hk
        | add =>
          have hnil : adds.filter (κ · != .add) = [] :=
            List.filter_eq_nil_iff.mpr fun y hy => by simp [hadds y hy]
          simp only [List.filter_append, hnil, List.append_nil, List.nil_append]
        | delete =>
          have hnil : [x].filter (κ · != .delete) = [] := by simp [hx]
          simp only [List.filter_append, hnil, List.append_nil, List.nil_append]
      calc (dels ++ [x] ++ adds ++ r).filter (κ · != k)
          = dels.filter (κ · != k) ++ ([x] ++ adds).filter (κ · != k) ++ r.filter (κ · != k) := by
            simp only [List.filter_append, List.append_assoc]
        _ = dels.filter (κ · != k) ++ (adds ++ [x]).filter (κ · != k) ++ r.filter (κ · != k) := by
            rw [hcomm]
        _ = (dels ++ adds ++ ([x] ++ r)).filter (κ · != k) := by
            simp only [List.filter_append, List.append_assoc]
        _ = (dels ++ adds ++ x :: r).filter (κ · != k) := by rw [List.singleton_append]
    | add =>
      simp only [settleRun, hx]
      rw [ih _ _ hdels (by simpa [or_imp, forall_and] using ⟨hadds, hx⟩)]
      simp

theorem getElem?_settleRun_of_context (r : List α) :
    ∀ (dels adds : List α) {i : Nat} {x : α}, r[i]? = some x → κ x = .context →
      (settleRun κ dels adds r)[dels.length + adds.length + i]? = some x := by
  induction r with
  | nil => intro _ _ _ _ hi; simp at hi
  | cons y r ih =>
    intro dels adds i x hi hx
    cases i with
    | zero =>
      simp only [List.getElem?_cons_zero, Option.some.injEq] at hi
      subst hi
      simp [settleRun, hx]
    | succ k =>
      simp only [List.getElem?_cons_succ] at hi
      cases hy : κ y with
      | context =>
        have h := ih [] [] hi hx
        simp only [settleRun, hy]
        rw [List.getElem?_append_right (by simp)]
        simpa using h
      | delete =>
        have h := ih (dels ++ [y]) adds hi hx
        simp only [settleRun, hy]
        rw [show dels.length + adds.length + (k + 1) = (dels ++ [y]).length + adds.length + k by
          simp; omega]
        exact h
      | add =>
        have h := ih dels (adds ++ [y]) hi hx
        simp only [settleRun, hy]
        rw [show dels.length + adds.length + (k + 1) = dels.length + (adds ++ [y]).length + k by
          simp; omega]
        exact h

theorem deletionsAhead_of_settled :
    ∀ {x : α} {r : List α}, κ x = .add →
      (x :: r).IsChain (fun x y => ¬(κ x = .add ∧ κ y = .delete)) → deletionsAhead κ r = 0
  | _, [], _, _ => rfl
  | _, y :: r, hx, h => by
    rw [List.isChain_cons_cons] at h
    cases hy : κ y with
    | context => simp [deletionsAhead, hy]
    | add =>
      simp only [deletionsAhead, hy]
      exact deletionsAhead_of_settled hy h.2
    | delete => exact absurd ⟨hx, hy⟩ h.1

theorem runInversions_of_settled {l : List α}
    (h : l.IsChain fun x y => ¬(κ x = .add ∧ κ y = .delete)) : runInversions κ l = 0 := by
  induction l with
  | nil => rfl
  | cons x r ih =>
    rw [runInversions_cons, ih h.of_cons]
    by_cases hx : κ x = .add
    · simp [hx, deletionsAhead_of_settled hx h]
    · simp [hx]

section Lift

variable {β : Type} (g : β → Option α)

private theorem deletionsAhead_filterMap (l : List β) (hl : ∀ x ∈ l, (g x).isSome) :
    deletionsAhead κ (l.filterMap g) = deletionsAhead (fun x => ((g x).map κ).getD .context) l := by
  induction l with
  | nil => rfl
  | cons x l ih =>
    obtain ⟨y, hy⟩ := Option.isSome_iff_exists.mp (hl x List.mem_cons_self)
    have hrest := ih fun z hz => hl z (List.mem_cons_of_mem _ hz)
    simp only [List.filterMap_cons, hy, deletionsAhead, Option.map_some, Option.getD_some]
    cases κ y <;> simp [hrest]

theorem runInversions_filterMap (l : List β) (hl : ∀ x ∈ l, (g x).isSome) :
    runInversions κ (l.filterMap g) = runInversions (fun x => ((g x).map κ).getD .context) l := by
  induction l with
  | nil => rfl
  | cons x l ih =>
    obtain ⟨y, hy⟩ := Option.isSome_iff_exists.mp (hl x List.mem_cons_self)
    have hmem : ∀ z ∈ l, (g z).isSome := fun z hz => hl z (List.mem_cons_of_mem _ hz)
    simp only [List.filterMap_cons, hy, runInversions_cons, Option.map_some, Option.getD_some,
      ih hmem, deletionsAhead_filterMap g l hmem]

end Lift

end Runs

namespace Strand

def kindOf (es : Array Entry) (i : Nat) : LineKind := (kindIn es i).getD .context

theorem inverted_iff (es : Array Entry) (x y : Nat) :
    Inverted (kindIn es) x y ↔ kindOf es x = .add ∧ kindOf es y = .delete := by
  unfold Inverted kindOf
  cases kindIn es x <;> cases kindIn es y <;> simp

theorem kindOf_swapLinks (es : Array Entry) (a d : Nat) :
    kindOf (swapLinks es a d) = kindOf es := by
  funext i
  simp [kindOf, kindIn_swapLinks]

theorem kindOf_sweepAll (s : Strand) : kindOf s.sweepAll.1.entries = kindOf s.entries := by
  funext i
  simp [kindOf, kindIn_sweepAll]

theorem deletionsAhead_sweep (es : Array Entry) (c : Nat) (r : List Nat) :
    deletionsAhead (kindOf es) (sweep es c r).2.1 = deletionsAhead (kindOf es) (c :: r) := by
  induction r generalizing es c with
  | nil => rfl
  | cons b r ih =>
    rw [sweep_cons]
    split
    · next hinv =>
      obtain ⟨hc, hb⟩ := (inverted_iff es c b).mp hinv
      have h := ih (swapLinks es c b) c
      rw [kindOf_swapLinks] at h
      simp only [deletionsAhead, hb, hc, h]
    · cases hc : kindOf es c with
      | context => simp [deletionsAhead, hc]
      | add => simp [deletionsAhead, hc, ih es b]
      | delete => simp [deletionsAhead, hc, ih es b]

theorem swaps_add_runInversions_sweep (es : Array Entry) (c : Nat) (r : List Nat) :
    (sweep es c r).2.2 + runInversions (kindOf es) (sweep es c r).2.1 =
      runInversions (kindOf es) (c :: r) := by
  induction r generalizing es c with
  | nil => simp [sweep]
  | cons b r ih =>
    rw [sweep_cons]
    split
    · next hinv =>
      -- the carried addition `c` passes the deletion `b`: one swap, one inversion less
      obtain ⟨hc, hb⟩ := (inverted_iff es c b).mp hinv
      have h := ih (swapLinks es c b) c
      rw [kindOf_swapLinks] at h
      simp only [runInversions_cons, deletionsAhead, hb, hc, if_true, reduceCtorEq,
        if_false] at h ⊢
      omega
    · have h := ih es b
      simp only
      rw [runInversions_cons, runInversions_cons (kindOf es) c (b :: r), deletionsAhead_sweep]
      omega

theorem swaps_add_runInversions_sweepAll (s : Strand) :
    s.sweepAll.2 + runInversions (kindOf s.entries) s.sweepAll.1.order =
      runInversions (kindOf s.entries) s.order := by
  cases h : s.order with
  | nil => rw [sweepAll_nil h, h]; rfl
  | cons c r =>
    rw [sweepAll_cons h]
    exact swaps_add_runInversions_sweep _ _ _

theorem swaps_add_runInversions_sweepUntilStill (fuel : Nat) (s : Strand) :
    (sweepUntilStill fuel s).2 + runInversions (kindOf s.entries) (sweepUntilStill fuel s).1.order =
      runInversions (kindOf s.entries) s.order := by
  induction fuel generalizing s with
  | zero => simp [sweepUntilStill]
  | succ fuel ih =>
    have hsw := swaps_add_runInversions_sweepAll s
    have hkinds := kindOf_sweepAll s
    rcases hs : s.sweepAll with ⟨s', n⟩
    rw [hs] at hsw hkinds
    simp only [sweepUntilStill, hs]
    split
    · next hn =>
      subst hn
      simpa using hsw
    · have hrest := ih s'
      rw [hkinds] at hrest
      simp only at hsw ⊢
      omega

theorem reorder_swaps (s : Strand) : s.reorder.2 = runInversions (kindOf s.entries) s.order := by
  have hcount := swaps_add_runInversions_sweepUntilStill (s.order.length + 1) s
  have hsettled := (reorder_settles s).2.2.imp fun x y h => by rwa [inverted_iff] at h
  rw [← reorder, runInversions_of_settled hsettled] at hcount
  omega

theorem sweepAll_reorder (s : Strand) : s.reorder.1.sweepAll.2 = 0 := by
  have hlines := (reorder_settles s).1
  have hkinds : kindIn s.reorder.1.entries = kindIn s.entries := by
    funext i
    simp only [kindIn, hlines]
  have hsettled := (reorder_settles s).2.2
  rw [← hkinds] at hsettled
  rw [sweepAll_of_settled hsettled]

theorem kindOf_ofLines (ls : List Line) :
    kindOf (ofLines ls).entries = fun i => ((ls[i]?).map (·.kind)).getD .context := by
  funext i
  simp [kindOf, kindIn_ofLines]

end Strand

namespace Line

theorem reorder_swaps (ls : List Line) : (reorder ls).2 = runInversions (·.kind) ls := by
  have hslots : ∀ i ∈ List.range ls.length, (ls[i]?).isSome := by
    intro i hi
    simp [List.mem_range.mp hi]
  have h := @runInversions_filterMap Line (·.kind) Nat (ls[·]?) (List.range ls.length) hslots
  rw [filterMap_range_getElem?] at h
  rw [h, ← Strand.kindOf_ofLines, ← Strand.order_ofLines, ← Strand.reorder_swaps]
  rfl

theorem reorder_fst (ls : List Line) : (reorder ls).1 = settleRuns (·.kind) ls := by
  have hsettled : (settleRuns (·.kind) ls).IsChain
      fun x y : Line => ¬(x.kind = .add ∧ y.kind = .delete) :=
    settleRun_settled ls [] [] (by simp) (by simp)
  apply eq_of_settled (fun l : Line => l.kind) (reorder_settled ls) hsettled
  · rw [filter_reorder _ (fun x _ hx _ => Or.inl (by simp [hx])), settleRuns,
      filter_settleRun (by decide) ls [] [] (by simp) (by simp), List.nil_append, List.nil_append]
  · rw [filter_reorder _ (fun _ y _ hy => Or.inr (by simp [hy])), settleRuns,
      filter_settleRun (by decide) ls [] [] (by simp) (by simp), List.nil_append, List.nil_append]

/-- Reordering ends, with no addition left directly before a deletion: a last sweep would
swap nothing. It rearranges the lines so that every context line keeps its place and each
run of changes between them becomes its deletions, then its additions, each group in the
order it was written; it counts one swap for each pair of an addition and a later deletion
of the same run. -/
theorem reorder_settles_runs (ls : List Line) :
    reorder ls = (settleRuns (·.kind) ls, runInversions (·.kind) ls) ∧
      (Strand.ofLines ls).reorder.1.sweepAll.2 = 0 ∧ Settled (reorder ls).1 ∧
      (reorder ls).1.Perm ls ∧
      ∀ (i : Nat) (l : Line), ls[i]? = some l → l.kind = .context →
        (reorder ls).1[i]? = some l := by
  refine ⟨Prod.ext (reorder_fst ls) (reorder_swaps ls), Strand.sweepAll_reorder _,
    reorder_settled ls, reorder_perm ls, ?_⟩
  intro i l hi hl
  have h := @getElem?_settleRun_of_context Line (·.kind) ls [] [] i l hi hl
  rw [reorder_fst, settleRuns]
  simpa using h

-- two runs around `d`: the deletion `c` passes two additions, `f` passes one
example : reorder [⟨0, "a", .add⟩, ⟨1, "b", .add⟩, ⟨2, "c", .delete⟩, ⟨3, "d", .context⟩,
    ⟨4, "e", .add⟩, ⟨5, "f", .delete⟩] =
    ([⟨2, "c", .delete⟩, ⟨0, "a", .add⟩, ⟨1, "b", .add⟩, ⟨3, "d", .context⟩,
      ⟨5, "f", .delete⟩, ⟨4, "e", .add⟩], 3) := by
  decide

end Line

end LinePatch
