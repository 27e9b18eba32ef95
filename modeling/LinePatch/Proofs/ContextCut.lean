import LinePatch.Proofs.EmptyPatch

/-!
# Cutting context around the changes

A script is a run of context, a change, and then runs of context each followed by a change,
and a last run of context. Cutting keeps every change in its place and cuts each run on its
own: a run between two changes that is longer than `2 * k` keeps its first and last `k`
lines with the placeholder between them, the last run keeps its first `k` lines, and the
first run, which goes through the same length test as the runs between changes, is kept
whole up to `2 * k` lines and cut to its last `k` beyond. A script without changes is cut
away entirely.
-/

namespace LinePatch

namespace Script

def keptBefore (k : Nat) (run : List Line) : List Line :=
  if run.length ≤ 2 * k then run else run.drop (run.length - k)

def keptBetween (k : Nat) (run : List Line) : List Line :=
  if run.length ≤ 2 * k then run else run.take k ++ placeholder :: run.drop (run.length - k)

def joinRuns (runs : List (List Line × Line)) : List Line :=
  runs.flatMap fun run => run.1 ++ [run.2]

section Cut

variable {k : Nat}

theorem leading_ofNat (k : Nat) (buf : List Line) : leading k buf = buf.take k := by
  rw [leading, if_pos (Int.natCast_nonneg k), Int.toNat_natCast]

theorem trailing_ofNat (hk : 0 < k) (buf : List Line) :
    trailing k buf = buf.drop (buf.length - k) := by
  rw [trailing, if_pos (by omega), Int.toNat_natCast]

theorem cutBuffer_first (hk : 0 < k) (buf : List Line) :
    cutBuffer k [] buf = keptBefore k buf := by
  unfold cutBuffer keptBefore
  by_cases hshort : buf.length ≤ 2 * k
  · rw [if_neg (by omega), if_pos hshort]
  · rw [if_pos (by omega), if_neg hshort, trailing_ofNat hk]
    rfl

theorem cutBuffer_between (hk : 0 < k) {out : List Line} (hout : out ≠ []) (buf : List Line) :
    cutBuffer k out buf = keptBetween k buf := by
  unfold cutBuffer keptBetween
  by_cases hshort : buf.length ≤ 2 * k
  · rw [if_neg (by omega), if_pos hshort]
  · have hempty : out.isEmpty = false := List.isEmpty_eq_false_iff.mpr hout
    rw [if_pos (by omega), if_neg hshort, hempty, if_neg Bool.false_ne_true, leading_ofNat,
      trailing_ofNat hk]
    simp

theorem foldl_truncateStep_context {B : List Line} (hB : ∀ l ∈ B, l.kind = .context)
    (out buf : List Line) : B.foldl (truncateStep k) (out, buf) = (out, buf ++ B) := by
  induction B generalizing buf with
  | nil => simp
  | cons l B ih =>
    rw [List.foldl_cons, truncateStep, if_pos (hB l List.mem_cons_self),
      ih (fun m hm => hB m (List.mem_cons_of_mem _ hm))]
    simp

theorem truncateStep_change {x : Line} (hx : x.kind ≠ .context) (out buf : List Line) :
    truncateStep k (out, buf) x = (out ++ cutBuffer k out buf ++ [x], []) := by
  rw [truncateStep, if_neg hx]

theorem foldl_truncateStep_runs (hk : 0 < k) {runs : List (List Line × Line)}
    (hruns : ∀ run ∈ runs, (∀ l ∈ run.1, l.kind = .context) ∧ run.2.kind ≠ .context)
    {out : List Line} (hout : out ≠ []) :
    (joinRuns runs).foldl (truncateStep k) (out, []) =
      (out ++ runs.flatMap (fun run => keptBetween k run.1 ++ [run.2]), []) := by
  induction runs generalizing out with
  | nil => simp [joinRuns]
  | cons run runs ih =>
    obtain ⟨hctx, hchange⟩ := hruns run List.mem_cons_self
    have hwritten : out ++ keptBetween k run.1 ++ [run.2] ≠ [] := by simp
    rw [joinRuns, List.flatMap_cons, List.foldl_append, List.foldl_append,
      foldl_truncateStep_context hctx, List.foldl_cons, List.foldl_nil, List.nil_append,
      truncateStep_change hchange, cutBuffer_between hk hout, ← joinRuns,
      ih (fun r hr => hruns r (List.mem_cons_of_mem _ hr)) hwritten]
    simp

end Cut

/-- Cutting context with `k ≥ 1` lines on each side: a script without changes is cut away,
and a script of a first run of context, a change, runs of context each followed by a
change, and a last run of context keeps every change in its place, the first run as
`keptBefore`, each run between changes as `keptBetween` and the first `k` lines of the last
run. -/
theorem truncate_runs {k : Nat} (hk : 0 < k) :
    (∀ diff : List Line, (∀ l ∈ diff, l.kind = .context) → truncate k diff = []) ∧
      ∀ (before : List Line) (x : Line) (runs : List (List Line × Line)) (after : List Line),
        (∀ l ∈ before, l.kind = .context) → x.kind ≠ .context →
        (∀ run ∈ runs, (∀ l ∈ run.1, l.kind = .context) ∧ run.2.kind ≠ .context) →
        (∀ l ∈ after, l.kind = .context) →
        truncate k (before ++ x :: joinRuns runs ++ after) =
          keptBefore k before ++ x ::
            runs.flatMap (fun run => keptBetween k run.1 ++ [run.2]) ++ after.take k := by
  refine ⟨fun diff h => truncate_of_context k h, ?_⟩
  intro before x runs after hbefore hx hruns hafter
  -- the first change writes what is kept in front of it; the runs follow; the last run
  -- stays in the buffer
  have hfold : (before ++ x :: joinRuns runs ++ after).foldl (truncateStep k) ([], []) =
      (keptBefore k before ++ x ::
        runs.flatMap (fun run => keptBetween k run.1 ++ [run.2]), after) := by
    rw [List.foldl_append, List.foldl_append, foldl_truncateStep_context hbefore, List.foldl_cons,
      List.nil_append, truncateStep_change hx, cutBuffer_first hk,
      foldl_truncateStep_runs hk hruns (by simp), foldl_truncateStep_context hafter,
      List.nil_append]
    simp
  rw [truncate_eq, hfold, leading_ofNat]
  simp

/-- Cutting with one line on each side: three lines in front of the first change are cut to
the last one, three between two changes to the first, the placeholder and the last, and
two after the last change to the first. -/
theorem truncate_runs_example :
    let c : Nat → Line := fun i => { index := i, text := toString i }
    let x : Line := { index := 3, text := "x", kind := .add }
    let y : Line := { index := 7, text := "y", kind := .delete }
    (∀ l ∈ [c 0, c 1, c 2], l.kind = .context) ∧ x.kind ≠ .context ∧
      (∀ run ∈ [([c 4, c 5, c 6], y)], (∀ l ∈ run.1, l.kind = .context) ∧
        run.2.kind ≠ .context) ∧
      (∀ l ∈ [c 8, c 9], l.kind = .context) ∧
      truncate 1 ([c 0, c 1, c 2] ++ x :: joinRuns [([c 4, c 5, c 6], y)] ++ [c 8, c 9]) =
        [c 2, x, c 4, placeholder, c 6, y, c 8] := by
  intro c x y
  have hcut := (truncate_runs Nat.one_pos).2 [c 0, c 1, c 2] x [([c 4, c 5, c 6], y)]
    [c 8, c 9] (by simp [c]) (by simp [x]) (by simp [c, y]) (by simp [c])
  exact ⟨by simp [c], by simp [x], by simp [c, y], by simp [c], hcut.trans (by decide)⟩

/-- Four lines of context in front of the only change, with three lines on each side: the
run is kept whole, not cut to its last three. -/
theorem truncate_keeps_short_first_run :
    let c : Nat → Line := fun i => { index := i, text := toString i }
    let x : Line := { index := 4, text := "x", kind := .add }
    truncate 3 [c 0, c 1, c 2, c 3, x] = [c 0, c 1, c 2, c 3, x] ∧
      truncate 3 [c 0, c 1, c 2, c 3, x] ≠ [c 1, c 2, c 3, x] := by
  decide

end Script

end LinePatch
