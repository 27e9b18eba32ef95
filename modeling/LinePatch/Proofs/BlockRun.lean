import LinePatch.Response

/-!
# Running the blocks of a response

Applying a response runs its blocks one after another, each on the text the blocks before
it left; a preview runs the same blocks on the same texts and records each refusal instead
of stopping on it, unless asked to stop.
-/

namespace LinePatch

section Folds

variable {α β ε : Type}

theorem Except.bind_eq_ok {x : Except ε α} {f : α → Except ε β} {b : β}
    (h : x >>= f = .ok b) : ∃ a, x = .ok a ∧ f a = .ok b := by
  cases x with
  | error e => cases h
  | ok a => exact ⟨a, rfl, h⟩

theorem foldlM_ok_invariant {f : α → β → Except ε α} (P : α → Prop)
    (hstep : ∀ x b y, f x b = .ok y → P x → P y) :
    ∀ (bs : List β) (x y : α), bs.foldlM f x = .ok y → P x → P y
  | [], x, y, h, hx => by
    cases h
    exact hx
  | b :: bs, x, y, h, hx => by
    rw [List.foldlM_cons] at h
    obtain ⟨z, hz, hrest⟩ := Except.bind_eq_ok h
    exact foldlM_ok_invariant P hstep bs z y hrest (hstep x b z hz hx)

theorem foldlM_eq_error {f : α → β → Except ε α} :
    ∀ {bs : List β} {x : α} {e : ε}, bs.foldlM f x = .error e →
      ∃ k y b, (bs.take k).foldlM f x = .ok y ∧ bs[k]? = some b ∧ f y b = .error e
  | [], _, _, h => by cases h
  | b :: bs, x, e, h => by
    rw [List.foldlM_cons] at h
    cases hx : f x b with
    | error e' =>
      rw [hx] at h
      cases h
      exact ⟨0, x, b, rfl, rfl, hx⟩
    | ok z =>
      rw [hx] at h
      obtain ⟨k, y, b', hy, hb', he⟩ := foldlM_eq_error h
      refine ⟨k + 1, y, b', ?_, by simpa using hb', he⟩
      rw [List.take_succ_cons, List.foldlM_cons, hx]
      exact hy

end Folds

namespace Balance

theorem mem_all (b : Balance) : b ∈ all := by
  cases b <;> decide

theorem holds_of_guard {before after text : String} (h : guard before after = .ok text)
    {b : Balance} (hb : b.holds before = true) : b.holds text = true := by
  simp only [guard] at h
  split at h
  · rename_i hnil
    cases h
    cases hbroken : b.holds (dropCarriageReturns after)
    · have hmem : b ∈ regressions before (dropCarriageReturns after) := by
        simp [regressions, mem_all, hb, hbroken]
      rw [hnil] at hmem
      exact absurd hmem List.not_mem_nil
    · rfl
  · cases h

theorem guard_eq_error {before after : String} {f : Fault} (h : guard before after = .error f) :
    f = .unbalanced (regressions before (dropCarriageReturns after)) := by
  simp only [guard] at h
  split at h
  · cases h
  · cases h
    rfl

end Balance

private theorem Report.summary_fields (blocks : List String) (r : Report) :
    let r' := if r.success then r
      else { r with overall := s!"{r.failed} of {blocks.length} block(s) failed" }
    r'.success = r.success ∧ r'.text = r.text ∧ r'.applied = r.applied ∧ r'.failed = r.failed := by
  by_cases hs : r.success <;> simp [hs]

theorem Engine.kind_of_apply_error {e : Engine} {source patch : String} {f : Fault}
    (h : e.apply source patch = .error f) : f.kind ≠ .validation := by
  cases e with
  | lines p => cases h
  | chars t d =>
    simp only [Engine.apply] at h
    split at h
    · cases h
      simp [Fault.kind]
    · split at h
      · cases h
        simp [Fault.kind]
      · cases h
        simp [Fault.kind]
      · split at h
        · cases h
        · cases h
          simp [Fault.kind]

namespace Applier

variable {a : Applier}

theorem holds_of_applyBlock (hv : a.validate = true) {cur block text : String}
    (h : a.applyBlock cur block = .ok text) {b : Balance} (hb : b.holds cur = true) :
    b.holds text = true := by
  unfold applyBlock at h
  rw [hv, if_pos rfl] at h
  split at h
  · cases h
  · obtain ⟨after, -, hguard⟩ := Except.bind_eq_ok h
    exact Balance.holds_of_guard hguard hb

theorem applyBlock_validation (hv : a.validate = true) {cur block : String} {f : Fault}
    (h : a.applyBlock cur block = .error f) (hf : f.kind = .validation) :
    ∃ cand, a.engine.apply cur block = .ok cand ∧
      f.details = [("broken", .list ((Balance.all.filter fun b =>
        b.holds cur && !b.holds (dropCarriageReturns cand)).map fun b => .str b.name))] := by
  unfold applyBlock at h
  rw [hv, if_pos rfl] at h
  split at h
  · cases h
    simp [Fault.kind] at hf
  · simp only [Engine.applyGuarded] at h
    cases happ : a.engine.apply cur block with
    | error g =>
      rw [happ] at h
      cases h
      exact absurd hf (Engine.kind_of_apply_error happ)
    | ok cand =>
      rw [happ] at h
      refine ⟨cand, rfl, ?_⟩
      rw [Balance.guard_eq_error h]
      rfl

section Preview

variable [Text.Surrogates]

theorem previewStep_cons (stop : Bool) (n : Nat) (block : String) (rest : List String)
    (r : Report) :
    a.previewStep stop n (block :: rest) r =
      match a.applyBlock r.text block with
      | .ok text =>
        a.previewStep stop (n + 1) rest
          { r with text := text, applied := r.applied + 1, logs := r.logs ++ [LogEntry.applied n] }
      | .error f =>
        if f.kind.isPatchFault then
          if stop then
            .ok
              { r with
                success := false
                failed := r.failed + 1
                logs := r.logs ++ [LogEntry.rejected n f] }
          else
            a.previewStep stop (n + 1) rest
              { r with
                success := false
                failed := r.failed + 1
                logs := r.logs ++ [LogEntry.rejected n f] }
        else .error f :=
  -- the equation of the definition, with its `let` and its matcher seen up to unfolding
  previewStep.eq_2 ..

theorem previewStep_cons_ok {stop : Bool} {n : Nat} {block : String} {rest : List String}
    {r : Report} {text : String} (h : a.applyBlock r.text block = .ok text) :
    a.previewStep stop n (block :: rest) r =
      a.previewStep stop (n + 1) rest
        { r with
          text := text
          applied := r.applied + 1
          logs := r.logs ++ [LogEntry.applied n] } := by
  rw [previewStep_cons, h]

def startReport (code : String) (blocks : List String) : Report :=
  { success := true, overall := "OK", text := code, blocks := blocks.length, applied := 0,
    failed := 0, logs := [] }

theorem preview_eq {code response : String} (stop : Bool) (hb : Fence.blocks response ≠ []) :
    a.preview code response stop =
      (a.previewStep stop 1 (Fence.blocks response) (startReport code (Fence.blocks response))).map
        fun r => if r.success then r
          else { r with overall := s!"{r.failed} of {(Fence.blocks response).length} block(s) failed" } := by
  unfold preview
  rw [if_neg (by simpa using hb)]
  simp only [startReport]
  cases a.previewStep stop 1 (Fence.blocks response) _ with
  | error f => rfl
  | ok r =>
    by_cases hs : r.success <;> simp [hs, bind, Except.bind, pure, Except.pure, Except.map]

theorem preview_eq_ok {code response : String} {stop : Bool} (hb : Fence.blocks response ≠ [])
    {r : Report} (h : a.preview code response stop = .ok r) :
    ∃ r₀, a.previewStep stop 1 (Fence.blocks response)
        (startReport code (Fence.blocks response)) = .ok r₀ ∧
      r.success = r₀.success ∧ r.text = r₀.text ∧ r.applied = r₀.applied ∧
        r.failed = r₀.failed := by
  rw [preview_eq stop hb] at h
  cases hr : a.previewStep stop 1 (Fence.blocks response)
      (startReport code (Fence.blocks response)) with
  | error f =>
    rw [hr] at h
    cases h
  | ok r₀ =>
    rw [hr] at h
    cases h
    exact ⟨r₀, rfl, Report.summary_fields (Fence.blocks response) r₀⟩

theorem previewStep_text_invariant (P : String → Prop)
    (hstep : ∀ x b y, a.applyBlock x b = .ok y → P x → P y) (stop : Bool) :
    ∀ (bs : List String) (n : Nat) (r r' : Report), a.previewStep stop n bs r = .ok r' →
      P r.text → P r'.text
  | [], _, r, r', h, hr => by
    cases h
    exact hr
  | b :: bs, n, r, r', h, hr => by
    cases hb : a.applyBlock r.text b with
    | ok y =>
      rw [previewStep_cons_ok hb] at h
      exact previewStep_text_invariant P hstep stop bs (n + 1) _ r' h (hstep _ _ _ hb hr)
    | error f =>
      rw [previewStep_cons, hb] at h
      dsimp only at h
      split at h
      · split at h
        · cases h
          exact hr
        · exact previewStep_text_invariant P hstep stop bs (n + 1) _ r' h hr
      · cases h

theorem preview_text_invariant (P : String → Prop)
    (hstep : ∀ x b y, a.applyBlock x b = .ok y → P x → P y) {code response : String}
    (stop : Bool) {r : Report} (h : a.preview code response stop = .ok r) (hcode : P code) :
    P r.text := by
  by_cases hb : Fence.blocks response = []
  · unfold preview at h
    rw [if_pos (by simp [hb])] at h
    cases h
    exact hcode
  · obtain ⟨r₀, hr, -, htext, -⟩ := preview_eq_ok hb h
    rw [htext]
    exact previewStep_text_invariant P hstep stop _ 1 _ r₀ hr hcode

theorem previewStep_of_foldlM_ok (stop : Bool) :
    ∀ (bs : List String) (n : Nat) (r : Report) (text : String),
      bs.foldlM a.applyBlock r.text = .ok text →
      ∃ logs, a.previewStep stop n bs r =
        .ok { r with text := text, applied := r.applied + bs.length, logs := logs }
  | [], _, r, text, h => by
    cases h
    exact ⟨r.logs, rfl⟩
  | b :: bs, n, r, text, h => by
    rw [List.foldlM_cons] at h
    obtain ⟨y, hy, hrest⟩ := Except.bind_eq_ok h
    obtain ⟨logs, hlogs⟩ := previewStep_of_foldlM_ok stop bs (n + 1)
      { r with text := y, applied := r.applied + 1, logs := r.logs ++ [LogEntry.applied n] }
      text hrest
    refine ⟨logs, ?_⟩
    rw [previewStep_cons_ok hy, hlogs]
    simp only [List.length_cons, Except.ok.injEq]
    congr 1
    omega

theorem previewStep_stops (f : Fault) (hf : f.kind.isPatchFault = true) :
    ∀ (k : Nat) (bs : List String) (n : Nat) (r : Report) (cur block : String),
      (bs.take k).foldlM a.applyBlock r.text = .ok cur → bs[k]? = some block →
      a.applyBlock cur block = .error f →
      ∃ logs, a.previewStep true n bs r =
        .ok
          { r with
            text := cur
            applied := r.applied + k
            success := false
            failed := r.failed + 1
            logs := logs }
  | _, [], _, _, _, _, _, hblock, _ => by cases hblock
  | 0, b :: bs, n, r, cur, block, hcur, hblock, hfail => by
    cases hcur
    cases hblock
    refine ⟨r.logs ++ [LogEntry.rejected n f], ?_⟩
    rw [previewStep_cons, hfail]
    simp [hf]
  | k + 1, b :: bs, n, r, cur, block, hcur, hblock, hfail => by
    rw [List.take_succ_cons, List.foldlM_cons] at hcur
    obtain ⟨y, hy, hrest⟩ := Except.bind_eq_ok hcur
    obtain ⟨logs, hlogs⟩ := previewStep_stops f hf k bs (n + 1)
      { r with text := y, applied := r.applied + 1, logs := r.logs ++ [LogEntry.applied n] }
      cur block hrest (by simpa using hblock) hfail
    refine ⟨logs, ?_⟩
    rw [previewStep_cons_ok hy, hlogs]
    simp only [Except.ok.injEq]
    congr 1
    omega

def skipStep (a : Applier) (cur block : String) : Except Fault String :=
  match a.applyBlock cur block with
  | .ok text => .ok text
  | .error f => if f.kind.isPatchFault then .ok cur else .error f

theorem previewStep_text :
    ∀ (bs : List String) (n : Nat) (r : Report),
      (a.previewStep false n bs r).map (·.text) = bs.foldlM a.skipStep r.text
  | [], _, _ => rfl
  | b :: bs, n, r => by
    rw [List.foldlM_cons]
    cases hb : a.applyBlock r.text b with
    | ok y =>
      rw [previewStep_cons_ok hb]
      simp only [skipStep, hb]
      exact previewStep_text bs (n + 1) _
    | error f =>
      rw [previewStep_cons]
      by_cases hf : f.kind.isPatchFault = true
      · simp only [skipStep, hb, hf, if_true, Bool.false_eq_true, if_false]
        exact previewStep_text bs (n + 1) _
      · simp only [skipStep, hb, hf, Bool.false_eq_true, if_false]
        rfl

theorem previewStep_counts :
    ∀ (bs : List String) (n : Nat) (r r' : Report), a.previewStep false n bs r = .ok r' →
      r'.applied + r'.failed = r.applied + r.failed + bs.length ∧ r.failed ≤ r'.failed ∧
        (r'.success = true ↔ r.success = true ∧ r'.failed = r.failed)
  | [], _, r, r', h => by
    cases h
    simp
  | b :: bs, n, r, r', h => by
    cases hb : a.applyBlock r.text b with
    | ok y =>
      rw [previewStep_cons_ok hb] at h
      obtain ⟨hsum, hle, hsucc⟩ := previewStep_counts bs (n + 1) _ r' h
      simp only at hsum hle hsucc
      refine ⟨by simp only [List.length_cons]; omega, hle, hsucc⟩
    | error f =>
      rw [previewStep_cons, hb] at h
      dsimp only at h
      split at h
      · rw [if_neg Bool.false_ne_true] at h
        obtain ⟨hsum, hle, hsucc⟩ := previewStep_counts bs (n + 1) _ r' h
        simp only at hsum hle hsucc
        refine ⟨by simp only [List.length_cons]; omega, by omega, ?_⟩
        -- the preview failed at this block, so it stays failed
        have hfailed : r'.success = false := by simpa using hsucc
        simp only [hfailed, Bool.false_eq_true, false_iff, not_and]
        intro _
        omega
      · cases h

end Preview

end Applier

open Applier in
/-- A guarded run never loses a balance. Applying a response, or previewing it whether or not
the preview stops at a refusal, gives a text that keeps every balance the code kept; and a
block refused for its balances names exactly those that held on the text it was applied to
and fail on the engine's result without its carriage returns, in check order. -/
theorem guarded_runs_keep_balances [Text.Surrogates] (a : Applier) (hv : a.validate = true)
    (code response : String) :
    (∀ text, a.apply code response = .ok text →
      ∀ b : Balance, b.holds code = true → b.holds text = true) ∧
    (∀ stop r, a.preview code response stop = .ok r →
      ∀ b : Balance, b.holds code = true → b.holds r.text = true) ∧
    (∀ cur block f, a.applyBlock cur block = .error f → f.kind = .validation →
      ∃ cand, a.engine.apply cur block = .ok cand ∧
        f.details = [("broken", .list ((Balance.all.filter fun b =>
          b.holds cur && !b.holds (dropCarriageReturns cand)).map fun b => .str b.name))]) := by
  have hstep : ∀ b : Balance, ∀ x blk y, a.applyBlock x blk = .ok y →
      b.holds x = true → b.holds y = true := fun b x blk y h hx => holds_of_applyBlock hv h hx
  refine ⟨fun text h b hb => ?_, fun stop r h b hb => ?_, fun cur block f h hf =>
    applyBlock_validation hv h hf⟩
  · exact foldlM_ok_invariant (fun t => b.holds t = true) (hstep b) _ code text h hb
  · exact preview_text_invariant (fun t => b.holds t = true) (hstep b) stop h hb

open Applier in
theorem guarded_runs_keep_balances_example :
    let _ : Text.Surrogates := ⟨0xF0000⟩
    let a : Applier := {}
    let code := "f(x)"
    let response := "```diff\n  f(x)\n+ g(y)\n```"
    a.validate = true ∧
    ((∀ text, a.apply code response = .ok text →
      ∀ b : Balance, b.holds code = true → b.holds text = true) ∧
    (∀ stop r, a.preview code response stop = .ok r →
      ∀ b : Balance, b.holds code = true → b.holds r.text = true) ∧
    (∀ cur block f, a.applyBlock cur block = .error f → f.kind = .validation →
      ∃ cand, a.engine.apply cur block = .ok cand ∧
        f.details = [("broken", .list ((Balance.all.filter fun b =>
          b.holds cur && !b.holds (dropCarriageReturns cand)).map fun b => .str b.name))])) :=
  ⟨rfl, @guarded_runs_keep_balances ⟨0xF0000⟩ _ rfl _ _⟩

open Applier in
/-- A preview agrees with applying. For a response with blocks: when applying gives a text,
a preview, stopping or not, applies every block and gives that text; when applying is
refused with a patch fault, it was refused at a block after the blocks before it applied,
and a stopping preview gives the text they left with one failure; a preview that goes on
past refusals gives the fold that leaves the text alone at every refused block, counts every
block once, and succeeds exactly when nothing failed. -/
theorem preview_agrees_with_apply [Text.Surrogates] (a : Applier) (code response : String)
    (hb : Fence.blocks response ≠ []) :
    (∀ text, a.apply code response = .ok text → ∀ stop, ∃ r, a.preview code response stop = .ok r ∧
      r.success = true ∧ r.text = text ∧ r.applied = (Fence.blocks response).length ∧
      r.failed = 0) ∧
    (∀ f, a.apply code response = .error f → f.kind.isPatchFault = true →
      ∃ k cur block, ((Fence.blocks response).take k).foldlM a.applyBlock code = .ok cur ∧
        (Fence.blocks response)[k]? = some block ∧ a.applyBlock cur block = .error f ∧
        ∃ r, a.preview code response true = .ok r ∧ r.success = false ∧ r.text = cur ∧
          r.applied = k ∧ r.failed = 1) ∧
    ((a.preview code response false).map (·.text) = (Fence.blocks response).foldlM a.skipStep code ∧
      ∀ r, a.preview code response false = .ok r →
        r.applied + r.failed = (Fence.blocks response).length ∧ (r.success = true ↔ r.failed = 0)) := by
  refine ⟨fun text h stop => ?_, fun f h hf => ?_, ?_, fun r h => ?_⟩
  · obtain ⟨logs, hlogs⟩ := previewStep_of_foldlM_ok stop _ 1 (startReport code _) text h
    refine ⟨_, by rw [preview_eq stop hb, hlogs]; rfl, ?_⟩
    simp [startReport]
  · obtain ⟨k, cur, block, hcur, hblock, hfail⟩ := foldlM_eq_error h
    obtain ⟨logs, hlogs⟩ := previewStep_stops f hf k _ 1 (startReport code _) cur block hcur
      hblock hfail
    refine ⟨k, cur, block, hcur, hblock, hfail, _, by rw [preview_eq true hb, hlogs]; rfl, ?_⟩
    simp [startReport]
  · have htext : (a.previewStep false 1 (Fence.blocks response)
        (startReport code (Fence.blocks response))).map (·.text) =
        (Fence.blocks response).foldlM a.skipStep code := previewStep_text _ 1 _
    rw [preview_eq false hb, ← htext]
    cases a.previewStep false 1 (Fence.blocks response) (startReport code _) with
    | error f => rfl
    | ok r₀ => simp only [Except.map, (Report.summary_fields (Fence.blocks response) r₀).2.1]
  · obtain ⟨r₀, hr, hs, -, ha, hf⟩ := preview_eq_ok hb h
    obtain ⟨hsum, -, hsucc⟩ := previewStep_counts _ 1 _ r₀ hr
    rw [hs, ha, hf]
    simp only [startReport] at hsum hsucc
    exact ⟨by omega, by simpa using hsucc⟩

open Applier in
theorem preview_agrees_with_apply_example :
    let _ : Text.Surrogates := ⟨0xF0000⟩
    let a : Applier := {}
    let code := "f(x)"
    let response := "```diff\n  f(x)\n+ g(y)\n```"
    Fence.blocks response ≠ [] ∧
    ((∀ text, a.apply code response = .ok text → ∀ stop, ∃ r, a.preview code response stop = .ok r ∧
      r.success = true ∧ r.text = text ∧ r.applied = (Fence.blocks response).length ∧
      r.failed = 0) ∧
    (∀ f, a.apply code response = .error f → f.kind.isPatchFault = true →
      ∃ k cur block, ((Fence.blocks response).take k).foldlM a.applyBlock code = .ok cur ∧
        (Fence.blocks response)[k]? = some block ∧ a.applyBlock cur block = .error f ∧
        ∃ r, a.preview code response true = .ok r ∧ r.success = false ∧ r.text = cur ∧
          r.applied = k ∧ r.failed = 1) ∧
    ((a.preview code response false).map (·.text) = (Fence.blocks response).foldlM a.skipStep code ∧
      ∀ r, a.preview code response false = .ok r →
        r.applied + r.failed = (Fence.blocks response).length ∧ (r.success = true ↔ r.failed = 0))) :=
  ⟨by decide, @preview_agrees_with_apply ⟨0xF0000⟩ _ _ _ (by decide)⟩

end LinePatch
