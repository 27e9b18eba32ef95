import LinePatch.Options
import LinePatch.Proofs.BlockRun
import Mathlib.Data.List.Induction

/-!
# Merging options

Overrides laid over the defaults give options that pass every check made on the way: the
size limit is positive and the match threshold lies in `[0, 1]`, while the choices and the
flag are held by their types. Merged once more, such options pass the same checks
unchanged, so merging the merged options gives them back.

Main statement: `ofOverrides_mapping`. A merge may also fail with an overflow, which is no
configuration fault; `merge_infinite_limit` is such a mapping.
-/

namespace LinePatch

theorem Except.bind_eq_error {ε α β : Type} {x : Except ε α} {f : α → Except ε β} {e : ε}
    (h : x >>= f = .error e) : x = .error e ∨ ∃ a, x = .ok a ∧ f a = .error e := by
  cases x with
  | error e' =>
    injection h with h
    exact Or.inl (congrArg Except.error h)
  | ok a => exact Or.inr ⟨a, rfl, h⟩

namespace Options

def Checked (o : Options) : Prop :=
  0 < o.maxDiffChars ∧ 0 ≤ o.matchThreshold ∧ o.matchThreshold ≤ 1

def MergeFault (f : Fault) : Prop :=
  f.kind = .config ∨ f = .wholeOfInfinity ∨ f = .realTooLarge ∨ f = .wholeTooLongToWrite

instance (o : Options) : Decidable o.Checked :=
  inferInstanceAs (Decidable (0 < o.maxDiffChars ∧ 0 ≤ o.matchThreshold ∧ o.matchThreshold ≤ 1))

theorem checked_default : ({} : Options).Checked := by
  decide

section Conversions

variable [Text.Surrogates]

theorem toWhole_fault {v : Setting} {f : Fault} (h : v.toWhole = .error f) :
    f.kind = .type ∨ f.kind = .value ∨ f = .wholeOfInfinity := by
  cases v with
  | float x =>
    simp only [Setting.toWhole] at h
    split at h
    · cases h
      exact Or.inr (Or.inl rfl)
    · split at h
      · cases h
        exact Or.inr (Or.inr rfl)
      · cases h
  | str s =>
    simp only [Setting.toWhole] at h
    split at h <;> cases h <;> exact Or.inr (Or.inl rfl)
  | bytes data =>
    simp only [Setting.toWhole] at h
    split at h <;> cases h
    exact Or.inr (Or.inl rfl)
  | bool b => simp [Setting.toWhole] at h
  | int n => simp [Setting.toWhole] at h
  | _ =>
    simp only [Setting.toWhole] at h
    cases h
    exact Or.inl rfl

theorem toReal_fault {v : Setting} {f : Fault} (h : v.toReal = .error f) :
    f.kind = .type ∨ f.kind = .value ∨ f = .realTooLarge := by
  cases v with
  | int n =>
    simp only [Setting.toReal] at h
    split at h
    · cases h
      exact Or.inr (Or.inr rfl)
    · cases h
  | str s =>
    simp only [Setting.toReal] at h
    split at h <;> cases h
    exact Or.inr (Or.inl rfl)
  | bytes data =>
    simp only [Setting.toReal] at h
    split at h <;> cases h
    exact Or.inr (Or.inl rfl)
  | bool b => simp [Setting.toReal] at h
  | float x => simp [Setting.toReal] at h
  | _ =>
    simp only [Setting.toReal] at h
    cases h
    exact Or.inl rfl

end Conversions

theorem numberFault_merge {key : String} {v : Setting} {f : Fault}
    (h : f.kind = .type ∨ f.kind = .value ∨ f = .wholeOfInfinity ∨ f = .realTooLarge) :
    MergeFault (numberFault key v f) := by
  unfold numberFault
  split
  · split
    · exact Or.inr (Or.inr (Or.inr rfl))
    · exact Or.inl rfl
  · split
    · exact Or.inr (Or.inr (Or.inr rfl))
    · exact Or.inl rfl
  · next htype hvalue =>
    rcases h with h | h | h | h
    · exact absurd h htype
    · exact absurd h hvalue
    · exact Or.inr (Or.inl h)
    · exact Or.inr (Or.inr (Or.inl h))

theorem distinctEntries_concat (kvs : List (Setting × Setting)) (k v : Setting) :
    distinctEntries (kvs ++ [(k, v)]) =
      if (distinctEntries kvs).any (·.1.sameKey k) then
        (distinctEntries kvs).map fun e => if e.1.sameKey k then (e.1, v) else e
      else distinctEntries kvs ++ [(k, v)] := by
  unfold distinctEntries
  rw [List.foldl_append]
  rfl

theorem distinctEntries_eq_self {kvs : List (Setting × Setting)}
    (h : (kvs.map Prod.fst).Pairwise fun a b => a.sameKey b = false) :
    distinctEntries kvs = kvs := by
  induction kvs using List.reverseRecOn with
  | nil => rfl
  | append_singleton kvs e ih =>
    obtain ⟨k, v⟩ := e
    rw [List.map_append, List.pairwise_append] at h
    obtain ⟨hkvs, -, hlast⟩ := h
    have hfresh : (kvs.any (·.1.sameKey k)) = false := by
      rw [List.any_eq_false]
      intro e he
      simpa using hlast e.1 (List.mem_map_of_mem he) k (by simp)
    rw [distinctEntries_concat, ih hkvs, hfresh]
    rfl

section Merge

variable [Text.Surrogates]

theorem ofOverrides_map_nil : ofOverrides (.map []) = .ok {} := by
  unfold ofOverrides
  rw [if_pos (by simp [Setting.truthy])]

theorem ofOverrides_map_cons (e : Setting × Setting) (kvs : List (Setting × Setting)) :
    ofOverrides (.map (e :: kvs)) = mergeEntries {} (distinctEntries (e :: kvs)) := by
  unfold ofOverrides
  rw [if_neg (by simp [Setting.truthy])]

theorem setChoice_keeps {o o' : Options} {key : String} {v : Setting}
    (h : o.setChoice key v = .ok o') :
    o'.maxDiffChars = o.maxDiffChars ∧ o'.matchThreshold = o.matchThreshold := by
  unfold setChoice at h
  split at h <;> cases h <;> exact ⟨rfl, rfl⟩

theorem setChoice_fault {o : Options} {key : String} {v : Setting} {f : Fault}
    (h : o.setChoice key v = .error f) : f.kind = .config := by
  unfold setChoice at h
  split at h <;> cases h <;> rfl

theorem set_checked {o o' : Options} {key : String} {v : Setting} (h : o.set key v = .ok o')
    (ho : o.Checked) : o'.Checked := by
  unfold set at h
  split at h
  iterate 2
    split at h
    · cases h
    · obtain ⟨hmax, hthreshold⟩ := setChoice_keeps h
      unfold Checked
      rw [hmax, hthreshold]
      exact ho
  · split at h
    · injection h with h
      subst h
      exact ho
    · cases h
  · split at h
    · split at h
      · cases h
      · next hpos =>
        injection h with h
        subst h
        refine ⟨?_, ho.2⟩
        dsimp only
        omega
    · cases h
  · split at h
    · injection h with h
      subst h
      exact ho
    · cases h
  · split at h
    · split at h
      · next hrange =>
        injection h with h
        subst h
        simp only [Bool.and_eq_true, decide_eq_true_eq] at hrange
        exact ⟨ho.1, hrange⟩
      · cases h
    · cases h
  · cases h

theorem set_fault {o : Options} {key : String} {v : Setting} {f : Fault}
    (h : o.set key v = .error f) : MergeFault f := by
  unfold set at h
  split at h
  iterate 2
    split at h
    · injection h with h
      subst h
      exact Or.inr (Or.inr (Or.inr rfl))
    · exact Or.inl (setChoice_fault h)
  · split at h
    · cases h
    · injection h with h
      subst h
      split
      · exact Or.inr (Or.inr (Or.inr rfl))
      · exact Or.inl rfl
  · split at h
    · split at h
      · injection h with h
        subst h
        exact Or.inl rfl
      · cases h
    · next f' hf =>
      injection h with h
      subst h
      exact numberFault_merge ((toWhole_fault hf).imp_right (Or.imp_right Or.inl))
  · split at h
    · cases h
    · next f' hf =>
      injection h with h
      subst h
      exact numberFault_merge ((toWhole_fault hf).imp_right (Or.imp_right Or.inl))
  · split at h
    · split at h
      · cases h
      · injection h with h
        subst h
        exact Or.inl rfl
    · next f' hf =>
      injection h with h
      subst h
      exact numberFault_merge ((toReal_fault hf).imp_right (Or.imp_right Or.inr))
  · injection h with h
    subst h
    exact Or.inl rfl

theorem mergeEntries_checked {o o' : Options} {entries : List (Setting × Setting)}
    (h : o.mergeEntries entries = .ok o') (ho : o.Checked) : o'.Checked := by
  induction entries generalizing o with
  | nil =>
    rw [mergeEntries.eq_1] at h
    injection h with h
    subst h
    exact ho
  | cons e rest ih =>
    obtain ⟨k, v⟩ := e
    unfold mergeEntries at h
    split at h
    · split at h
      · split at h
        · exact ih h ho
        · obtain ⟨o₁, hset, hrest⟩ := Except.bind_eq_ok h
          exact ih hrest (set_checked hset ho)
      · cases h
    · cases h

theorem mergeEntries_fault {o : Options} {entries : List (Setting × Setting)} {f : Fault}
    (h : o.mergeEntries entries = .error f) : MergeFault f := by
  induction entries generalizing o with
  | nil =>
    rw [mergeEntries.eq_1] at h
    cases h
  | cons e rest ih =>
    obtain ⟨k, v⟩ := e
    unfold mergeEntries at h
    split at h
    · split at h
      · split at h
        · exact ih h
        · rcases Except.bind_eq_error h with hset | ⟨o₁, -, hrest⟩
          · exact set_fault hset
          · exact ih hrest
      · injection h with h
        subst h
        exact Or.inl rfl
    · injection h with h
      subst h
      split
      · exact Or.inr (Or.inr (Or.inr rfl))
      · exact Or.inl rfl

theorem mergeEntries_cons_ok {o o₁ : Options} {key : String} {v : Setting}
    {rest : List (Setting × Setting)} (hkey : optionNames.contains key = true)
    (hv : v ≠ .none) (hset : o.set key v = .ok o₁) :
    o.mergeEntries ((.str key, v) :: rest) = o₁.mergeEntries rest := by
  rw [mergeEntries.eq_3 o v rest key hv, if_pos hkey, hset]
  rfl

set_option maxRecDepth 20000 in
theorem choiceText_policy_name (c : PolicyChoice) : choiceText (.str c.name) = c.name := by
  show Text.toLower (Text.trimBlanks c.name) = c.name
  cases c with
  | auto => decide
  | fixed p => cases p <;> decide

set_option maxRecDepth 20000 in
theorem choiceText_backend_name (b : Backend) : choiceText (.str b.name) = b.name := by
  show Text.toLower (Text.trimBlanks b.name) = b.name
  cases b <;> decide

theorem set_own_values {o' : Options} (ho : o'.Checked) :
    (∀ o : Options, o.set "policy" (.str o'.policy.name) = .ok { o with policy := o'.policy }) ∧
    (∀ o : Options, o.set "backend" (.str o'.backend.name) = .ok { o with backend := o'.backend }) ∧
    (∀ o : Options, o.set "validate" (.bool o'.validate) = .ok { o with validate := o'.validate }) ∧
    (∀ o : Options, o.set "max_diff_chars" (.int o'.maxDiffChars) =
      .ok { o with maxDiffChars := o'.maxDiffChars }) ∧
    (∀ o : Options, o.set "dmp_match_threshold" (.float o'.matchThreshold) =
      .ok { o with matchThreshold := o'.matchThreshold }) ∧
    (∀ o : Options, o.set "dmp_match_distance" (.int o'.matchDistance) =
      .ok { o with matchDistance := o'.matchDistance }) := by
  obtain ⟨hpos, h0, h1⟩ := ho
  refine ⟨fun o => ?_, fun o => ?_, fun o => set.eq_3 o _, fun o => ?_, fun o => ?_, fun o => ?_⟩
  -- the policy: each name is matched by its own case and refused by the others
  · rw [set.eq_1, if_neg (by simp [Setting.unwritable])]
    unfold setChoice
    rw [choiceText_policy_name]
    cases o'.policy with
    | auto => split <;> simp_all [PolicyChoice.name]
    | fixed p => cases p <;> split <;> simp_all [PolicyChoice.name, Policy.name]
  · rw [set.eq_2, if_neg (by simp [Setting.unwritable])]
    unfold setChoice
    rw [choiceText_backend_name]
    cases o'.backend <;> split <;> simp_all [Backend.name]
  · rw [set.eq_5]
    simp only [Setting.toWhole]
    rw [if_neg (by omega)]
  · rw [set.eq_7]
    simp only [Setting.toReal]
    rw [if_pos (by simp [h0, h1])]
  · rw [set.eq_6]
    rfl

theorem ofOverrides_toSetting (o : Options) (ho : o.Checked) : ofOverrides o.toSetting = .ok o := by
  obtain ⟨hpolicy, hbackend, hflag, hlimit, hthreshold, hdistance⟩ := set_own_values ho
  unfold toSetting
  rw [ofOverrides_map_cons, distinctEntries_eq_self]
  · rw [mergeEntries_cons_ok (by decide) (by simp) (hpolicy _),
      mergeEntries_cons_ok (by decide) (by simp) (hbackend _),
      mergeEntries_cons_ok (by decide) (by simp) (hflag _),
      mergeEntries_cons_ok (by decide) (by simp) (hlimit _),
      mergeEntries_cons_ok (by decide) (by simp) (hthreshold _),
      mergeEntries_cons_ok (by decide) (by simp) (hdistance _), mergeEntries.eq_1]
  · simp only [List.map]
    decide

end Merge

/-- Overrides given as a mapping either merge into options that pass the checks, and that
merge back into themselves, or fail with a fault merging may end in. -/
theorem ofOverrides_mapping [Text.Surrogates] (kvs : List (Setting × Setting)) :
    (∀ o, ofOverrides (.map kvs) = .ok o → o.Checked ∧ ofOverrides o.toSetting = .ok o) ∧
    (∀ f, ofOverrides (.map kvs) = .error f → MergeFault f) := by
  constructor
  · intro o h
    have ho : o.Checked := by
      cases kvs with
      | nil =>
        rw [ofOverrides_map_nil] at h
        injection h with h
        subst h
        exact checked_default
      | cons e kvs =>
        rw [ofOverrides_map_cons] at h
        exact mergeEntries_checked h checked_default
    exact ⟨ho, ofOverrides_toSetting o ho⟩
  · intro f h
    cases kvs with
    | nil =>
      rw [ofOverrides_map_nil] at h
      cases h
    | cons e kvs =>
      rw [ofOverrides_map_cons] at h
      exact mergeEntries_fault h

/-- An infinite size limit fails to merge with an overflow, not a configuration fault. -/
theorem merge_infinite_limit :
    let _ : Text.Surrogates := ⟨0xF0000⟩
    ofOverrides (.map [(.str "max_diff_chars", .float (1 / 0))]) =
        .error .wholeOfInfinity ∧
      Fault.wholeOfInfinity.kind = .overflow := by
  intro _
  have hnan : ((1 : Float) / 0).isNaN = false := by decide
  have hinf : ((1 : Float) / 0).isInf = true := by decide
  refine ⟨?_, rfl⟩
  rw [ofOverrides_map_cons, distinctEntries_eq_self (by simp), mergeEntries.eq_3 _ _ _ _ (by simp),
    if_pos (by decide), set.eq_5]
  simp only [Setting.toWhole, hnan, hinf]
  rfl

end Options

end LinePatch
