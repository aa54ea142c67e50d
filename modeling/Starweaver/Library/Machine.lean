import Mathlib.Data.Option.Basic

namespace Starweaver.Library.Machine

variable {σ α : Type}

/-- Take the actions in order; an action that is not enabled stops the run. -/
def run (step : σ → α → Option σ) (s : σ) : List α → Option σ
  | [] => some s
  | a :: actions => (step s a).bind fun next => run step next actions

/-- Every action of the run meets the condition in the state in which it is taken. -/
def Meets (step : σ → α → Option σ) (condition : σ → α → Prop) : σ → List α → Prop
  | _, [] => True
  | s, a :: actions => condition s a ∧ ∀ next, step s a = some next → Meets step condition next actions

/-- Whether a run meets a condition can be decided along the run. -/
instance Meets.decidable (step : σ → α → Option σ) (condition : σ → α → Prop) [∀ s a, Decidable (condition s a)] :
    ∀ (s : σ) (actions : List α), Decidable (Meets step condition s actions)
  | _, [] => .isTrue trivial
  | s, a :: actions =>
    match hstep : step s a with
    | none => decidable_of_iff (condition s a) ⟨fun h => ⟨h, fun _ hnext => by cases hstep.symm.trans hnext⟩, fun h => h.1⟩
    | some next =>
      have := Meets.decidable step condition next actions
      decidable_of_iff (condition s a ∧ Meets step condition next actions)
        ⟨fun h => ⟨h.1, fun _ hnext => by cases hstep.symm.trans hnext; exact h.2⟩, fun h => ⟨h.1, h.2 next hstep⟩⟩

section Invariant

variable {step : σ → α → Option σ} {condition : σ → α → Prop} {inv : σ → Prop}

theorem run_cons {s final : σ} {a : α} {actions : List α} (h : run step s (a :: actions) = some final) :
    ∃ next, step s a = some next ∧ run step next actions = some final :=
  Option.bind_eq_some_iff.mp h

theorem run_append {s mid final : σ} {before after : List α} (hbefore : run step s before = some mid)
    (hafter : run step mid after = some final) : run step s (before ++ after) = some final := by
  induction before generalizing s with
  | nil =>
    cases hbefore
    exact hafter
  | cons a before ih =>
    obtain ⟨next, hnext, hrest⟩ := run_cons hbefore
    rw [List.cons_append, run, hnext]
    exact ih hrest

theorem run_append_cases {s final : σ} {before after : List α} (h : run step s (before ++ after) = some final) :
    ∃ mid, run step s before = some mid ∧ run step mid after = some final := by
  induction before generalizing s with
  | nil => exact ⟨s, rfl, h⟩
  | cons a before ih =>
    obtain ⟨next, hnext, hrest⟩ := run_cons h
    obtain ⟨mid, hbefore, hafter⟩ := ih hrest
    refine ⟨mid, ?_, hafter⟩
    rw [run, hnext]
    exact hbefore

theorem run_invariant (hstep : ∀ s a next, inv s → condition s a → step s a = some next → inv next)
    {s final : σ} {actions : List α} (hinv : inv s) (hmeets : Meets step condition s actions)
    (hrun : run step s actions = some final) : inv final := by
  induction actions generalizing s with
  | nil =>
    cases hrun
    exact hinv
  | cons a actions ih =>
    obtain ⟨next, hnext, hrest⟩ := run_cons hrun
    exact ih (hstep s a next hinv hmeets.1 hnext) (hmeets.2 next hnext) hrest

/-- What holds between the states before and after each step holds between the ends of a run. -/
theorem run_relates {rel : σ → σ → Prop} (hrefl : ∀ s, rel s s) (htrans : ∀ {s t u}, rel s t → rel t u → rel s u)
    (hstep : ∀ s a next, inv s → condition s a → step s a = some next → inv next ∧ rel s next)
    {s final : σ} {actions : List α} (hinv : inv s) (hmeets : Meets step condition s actions)
    (hrun : run step s actions = some final) : inv final ∧ rel s final := by
  induction actions generalizing s with
  | nil =>
    cases hrun
    exact ⟨hinv, hrefl _⟩
  | cons a actions ih =>
    obtain ⟨next, hnext, hrest⟩ := run_cons hrun
    obtain ⟨hinv', hrel⟩ := hstep s a next hinv hmeets.1 hnext
    obtain ⟨hfinal, hrel'⟩ := ih hinv' (hmeets.2 next hnext) hrest
    exact ⟨hfinal, htrans hrel hrel'⟩

theorem Meets.of_append {s mid : σ} {before after : List α} (h : Meets step condition s (before ++ after))
    (hbefore : run step s before = some mid) : Meets step condition s before ∧ Meets step condition mid after := by
  induction before generalizing s with
  | nil =>
    cases hbefore
    exact ⟨trivial, h⟩
  | cons a before ih =>
    obtain ⟨next, hnext, hrest⟩ := run_cons hbefore
    obtain ⟨hmeets, hafter⟩ := ih (h.2 next hnext) hrest
    refine ⟨⟨h.1, fun other hother => ?_⟩, hafter⟩
    rw [hnext, Option.some.injEq] at hother
    exact hother ▸ hmeets

theorem Meets.cons {s next : σ} {a : α} {actions : List α} (hstep : step s a = some next) (h : condition s a)
    (hrest : Meets step condition next actions) : Meets step condition s (a :: actions) := by
  refine ⟨h, fun other hother => ?_⟩
  rw [hstep, Option.some.injEq] at hother
  exact hother ▸ hrest

theorem Meets.imp_of_invariant {good : σ → α → Prop}
    (hstep : ∀ s a next, inv s → condition s a → step s a = some next → inv next)
    (hgood : ∀ s a, inv s → condition s a → good s a) {s : σ} {actions : List α} (hinv : inv s)
    (hmeets : Meets step condition s actions) : Meets step good s actions := by
  induction actions generalizing s with
  | nil => exact trivial
  | cons a actions ih =>
    refine ⟨hgood s a hinv hmeets.1, fun next hnext => ?_⟩
    exact ih (hstep s a next hinv hmeets.1 hnext) (hmeets.2 next hnext)

theorem Meets.imp {good : σ → α → Prop} (hgood : ∀ s a, condition s a → good s a) {s : σ} {actions : List α}
    (hmeets : Meets step condition s actions) : Meets step good s actions := by
  have htrue (s : σ) (a : α) (next : σ) (_ : True) (_ : condition s a) (_ : step s a = some next) : True := trivial
  exact hmeets.imp_of_invariant htrue (fun s a _ => hgood s a) trivial

theorem meets_iff_of_invariant {good : σ → α → Prop}
    (hstep : ∀ s a next, inv s → condition s a → step s a = some next → inv next)
    (hiff : ∀ s a, inv s → (good s a ↔ condition s a)) {s : σ} (hinv : inv s) (actions : List α) :
    Meets step good s actions ↔ Meets step condition s actions := by
  constructor
  · apply Meets.imp_of_invariant
    · intro s a next hs hgood hnext
      exact hstep s a next hs ((hiff s a hs).mp hgood) hnext
    · intro s a hs hgood
      exact (hiff s a hs).mp hgood
    · exact hinv
  · exact Meets.imp_of_invariant hstep (fun s a hs hcondition => (hiff s a hs).mpr hcondition) hinv

/-- A condition that a step meets exactly when it keeps the invariant is met by the runs that never leave it. -/
theorem meets_iff_reached {base : σ → Prop} (hbase : ∀ s a next, base s → step s a = some next → base next)
    (hstep : ∀ s a, base s → inv s → ((∀ next, step s a = some next → inv next) ↔ condition s a)) {s : σ}
    (hs : base s) (hinv : inv s) (actions : List α) :
    Meets step condition s actions ↔
      ∀ prior, prior <+: actions → ∀ reached, run step s prior = some reached → inv reached := by
  induction actions generalizing s with
  | nil => simp [Meets, run, hinv]
  | cons a actions ih =>
    constructor
    · rintro ⟨hcondition, hrest⟩ prior hprior reached hrun
      rcases List.prefix_cons_iff.mp hprior with rfl | ⟨rest, rfl, hsub⟩
      · cases hrun
        exact hinv
      · obtain ⟨next, hnext, hreached⟩ := run_cons hrun
        have hkept := (hstep s a hs hinv).mpr hcondition next hnext
        exact (ih (hbase s a next hs hnext) hkept).mp (hrest next hnext) rest hsub reached hreached
    · intro halways
      have hkept : ∀ next, step s a = some next → inv next := fun next hnext =>
        halways [a] (by simp) next (by simp [run, hnext])
      refine ⟨(hstep s a hs hinv).mp hkept, fun next hnext => ?_⟩
      refine (ih (hbase s a next hs hnext) (hkept next hnext)).mpr fun rest hsub reached hrun => ?_
      exact halways (a :: rest) (by simpa using hsub) reached (by simpa [run, hnext] using hrun)

theorem run_total (f : σ → α → σ) (s : σ) (actions : List α) :
    run (fun s a => some (f s a)) s actions = some (actions.foldl f s) := by
  induction actions generalizing s with
  | nil => rfl
  | cons a actions ih => exact ih (f s a)

theorem meets_iff_always {f : σ → α → σ} {base : σ → Prop} (hbase : ∀ s a, base s → base (f s a))
    (hstep : ∀ s a, base s → inv s → (inv (f s a) ↔ condition s a)) {s : σ} (hs : base s) (hinv : inv s)
    (actions : List α) :
    Meets (fun s a => some (f s a)) condition s actions ↔ ∀ prior, prior <+: actions → inv (prior.foldl f s) := by
  have hbase' (s : σ) (a : α) (next : σ) (hbefore : base s) (hnext : some (f s a) = some next) : base next :=
    Option.some.inj hnext ▸ hbase s a hbefore
  rw [meets_iff_reached hbase' (fun s a hbefore hkept => by simpa using hstep s a hbefore hkept) hs hinv actions]
  simp only [run_total, Option.some.injEq, forall_eq']

theorem meets_true (s : σ) (actions : List α) : Meets step (fun _ _ => True) s actions := by
  induction actions generalizing s with
  | nil => exact trivial
  | cons a actions ih => exact ⟨trivial, fun next _ => ih next⟩

theorem meets_of_mem {allowed : α → Prop} {s : σ} {actions : List α} (h : ∀ a ∈ actions, allowed a) :
    Meets step (fun _ a => allowed a) s actions := by
  induction actions generalizing s with
  | nil => exact trivial
  | cons a actions ih =>
    obtain ⟨ha, hactions⟩ := List.forall_mem_cons.mp h
    exact ⟨ha, fun next _ => ih hactions⟩

theorem run_invariant_always (hstep : ∀ s a next, inv s → step s a = some next → inv next)
    {s final : σ} {actions : List α} (hinv : inv s) (hrun : run step s actions = some final) : inv final :=
  run_invariant (fun s a next hs _ hnext => hstep s a next hs hnext) hinv (meets_true s actions) hrun

end Invariant

end Starweaver.Library.Machine
