import RecordFilter.Settings.File

/-!
# Overlays one after another

An overlay is laid on top of settings before they are checked, and what the check refuses stays.
`merges_keep_iff` says what this means for a run of overlays over settings that were loaded: no call
spoils them if and only if no overlay gives a depth that is out of range.
-/

namespace RecordFilter

def Overlay.InRange (o : Overlay) : Prop :=
  ∀ d, o.depth = some d → Settings.leastDepth ≤ d ∧ d ≤ Settings.mostDepth

namespace Settings

variable {s : Settings} {o : Overlay} {os : List Overlay} {e : SettingsError}

theorem isValid_iff : s.isValid = true ↔ leastDepth ≤ s.depth ∧ s.depth ≤ mostDepth := by
  simp [isValid]

/-! ## Settings that were loaded -/

/-- The environment, the command line or a file gives these settings. -/
inductive Loaded (s : Settings) : Prop
  | environment {env : String → Option String} (h : ofEnvironment env = .ok s) : Loaded s
  | commandLine {o : Overlay} (h : ofOverlay o = .ok s) : Loaded s
  | file {text : String} (h : ofYaml text = .ok s) : Loaded s

theorem isValid_of_ofEnvironment {env : String → Option String} (h : ofEnvironment env = .ok s) :
    s.isValid = true := by
  unfold ofEnvironment at h
  split at h
  · cases h
  · split at h
    · cases h
    · obtain ⟨hv, rfl⟩ := checked_eq_ok_iff.1 h
      exact hv

theorem isValid_of_ofYaml {text : String} (h : ofYaml text = .ok s) : s.isValid = true := by
  unfold ofYaml at h
  split at h
  · obtain ⟨hv, rfl⟩ := checked_eq_ok_iff.1 h
    exact hv
  · cases h

theorem loaded_iff : Loaded s ↔ s.isValid = true := by
  constructor
  · rintro (h | h | h)
    · exact isValid_of_ofEnvironment h
    · obtain ⟨hv, rfl⟩ := checked_eq_ok_iff.1 h
      exact hv
    · exact isValid_of_ofYaml h
  · intro h
    have hs : overlaid {} ⟨s.catalogPath, some s.depth, s.showHidden⟩ = s := by
      simp [overlaid]
    exact .commandLine (checked_eq_ok_iff.2 ⟨by rwa [hs], hs.symm⟩)

/-! ## One overlay -/

theorem isValid_overlaid_iff (h : s.isValid = true) :
    (s.overlaid o).isValid = true ↔ o.InRange := by
  rw [isValid_iff] at h ⊢
  cases hd : o.depth with
  | none => simpa [overlaid, Overlay.InRange, hd] using h
  | some d => simp [overlaid, Overlay.InRange, hd]

theorem merge_eq_error_iff :
    (s.merge o).1 = .error e ↔ ¬ (s.overlaid o).isValid = true ∧ e = .depthOutOfRange := by
  unfold merge check
  by_cases h : (s.overlaid o).isValid = true <;> simp [h, eq_comm]

/-- What valid settings refuse is still laid over them, and spoils them. -/
theorem merge_spoils (h : s.isValid = true) (he : (s.merge o).1 = .error e) :
    (s.merge o).2 ≠ s := by
  intro hs
  have hv : ¬ (s.merge o).2.isValid = true := (merge_eq_error_iff.1 he).1
  rw [hs] at hv
  exact hv h

theorem merge_keeps_iff (h : s.isValid = true) :
    (∀ e, (s.merge o).1 = .error e → (s.merge o).2 = s) ↔ o.InRange := by
  rw [← isValid_overlaid_iff h]
  constructor
  · intro hk
    by_cases hv : (s.overlaid o).isValid = true
    · exact hv
    · have he : (s.merge o).1 = .error .depthOutOfRange := merge_eq_error_iff.2 ⟨hv, rfl⟩
      exact absurd (hk _ he) (merge_spoils h he)
  · intro hv e he
    exact absurd hv (merge_eq_error_iff.1 he).1

/-! ## Runs of overlays -/

/-- The calls of a run, each with the settings that it meets. -/
def calls (s : Settings) : List Overlay → List (Settings × Overlay)
  | [] => []
  | o :: os => (s, o) :: calls (s.merge o).2 os

/-- A property that valid settings have exactly under overlays in range holds of every call exactly
if all overlays are in range: up to the first that is not, the settings are valid. -/
theorem forall_calls_iff {P : Settings × Overlay → Prop}
    (hP : ∀ s o, s.isValid = true → (P (s, o) ↔ o.InRange)) (h : s.isValid = true) :
    (∀ c ∈ s.calls os, P c) ↔ ∀ o ∈ os, o.InRange := by
  induction os generalizing s with
  | nil => simp [calls]
  | cons o os ih =>
    rw [calls, List.forall_mem_cons, List.forall_mem_cons, hP s o h]
    refine and_congr_right fun ho => ih ?_
    exact (isValid_overlaid_iff h).2 ho

/-- Over settings that were loaded, the calls that fail leave the settings as they met them, and the
settings are valid after every call, if and only if every depth that an overlay gives is in
range. -/
theorem merges_keep_iff (h : Loaded s) (os : List Overlay) :
    ((∀ c ∈ s.calls os, ∀ e, (c.1.merge c.2).1 = .error e → (c.1.merge c.2).2 = c.1) ↔
        ∀ o ∈ os, o.InRange) ∧
      ((∀ c ∈ s.calls os, (c.1.merge c.2).2.isValid = true) ↔ ∀ o ∈ os, o.InRange) := by
  have hv : s.isValid = true := loaded_iff.1 h
  constructor
  · exact forall_calls_iff (fun _ _ hs => merge_keeps_iff hs) hv
  · exact forall_calls_iff (fun _ _ hs => isValid_overlaid_iff hs) hv

def three : Settings := { depth := 3 }

/-- A depth of 10 is refused and stays, and then an overlay that gives no depth is refused as
well. -/
theorem merge_keeps_refused_depth :
    ofOverlay { depth := some 3 } = .ok three ∧
      three.merge { depth := some 10 } = (.error .depthOutOfRange, { depth := 10 }) ∧
      (three.merge { depth := some 10 }).2 ≠ three ∧
      (three.merge { depth := some 10 }).2.isValid = false ∧
      ((three.merge { depth := some 10 }).2.merge { catalogPath := some "c.yaml" }).1 =
        .error .depthOutOfRange :=
  ⟨rfl, rfl, by decide, rfl, rfl⟩

theorem merges_keep_lowered :
    Loaded three ∧
      ∀ c ∈ three.calls [{ depth := some 2 }, { catalogPath := some "c.yaml" }, { depth := some 6 }],
        (c.1.merge c.2).2.isValid = true := by
  have h : Loaded three := loaded_iff.2 rfl
  refine ⟨h, (merges_keep_iff h _).2.2 ?_⟩
  simp [Overlay.InRange, leastDepth, mostDepth]

end Settings

end RecordFilter
