import Mathlib.Data.List.Basic

namespace Starweaver.Library.RecentLog

variable {τ : Type} {fresh : τ → Bool} {log all : List τ}

/-- A count of fresh entries only is in `all` at most what it is in the log. -/
def CoversFresh (fresh : τ → Bool) (log all : List τ) : Prop :=
  ∀ p : τ → Bool, (∀ t, p t = true → fresh t = true) → all.countP p ≤ log.countP p

theorem CoversFresh.nil : CoversFresh fresh log [] := fun _ _ => Nat.zero_le _

theorem CoversFresh.mono (h : CoversFresh fresh log all) {later : τ → Bool} (hlater : ∀ t, later t = true → fresh t = true) :
    CoversFresh later log all := fun p hp => h p fun t ht => hlater t (hp t ht)

theorem countP_filter_of_imp {p : τ → Bool} (hp : ∀ t, p t = true → fresh t = true) (log : List τ) :
    (log.filter fresh).countP p = log.countP p := by
  rw [List.countP_filter]
  refine List.countP_congr fun t _ => ?_
  rw [Bool.and_eq_true]
  exact ⟨And.left, fun ht => ⟨ht, hp t ht⟩⟩

/-- Entries that are no longer fresh may be dropped from the log. -/
theorem CoversFresh.filter (h : CoversFresh fresh log all) : CoversFresh fresh (log.filter fresh) all := by
  intro p hp
  rw [countP_filter_of_imp hp]
  exact h p hp

theorem CoversFresh.push (h : CoversFresh fresh log all) (t : τ) : CoversFresh fresh (log ++ [t]) (t :: all) := by
  intro p hp
  have hle := h p hp
  rw [List.countP_append, List.countP_cons, List.countP_singleton]
  omega

theorem CoversFresh.countP_le (h : CoversFresh fresh log all) {p : τ → Bool} (hp : ∀ t, p t = true → fresh t = true) :
    all.countP p ≤ (log.filter fresh).length :=
  calc all.countP p ≤ log.countP p := h p hp
    _ = (log.filter fresh).countP p := (countP_filter_of_imp hp log).symm
    _ ≤ (log.filter fresh).length := List.countP_le_length

/-- No span holds more than `limit` of the entries. -/
def SpansBounded (spans : (τ → Bool) → Prop) (limit : Nat) (all : List τ) : Prop :=
  ∀ span, spans span → all.countP span ≤ limit

/-- An entry may be added when the log has room, if a span that holds it holds fresh entries only. -/
theorem SpansBounded.push {spans : (τ → Bool) → Prop} {limit : Nat} (h : SpansBounded spans limit all) {t : τ}
    (hcovers : CoversFresh fresh log all) (hroom : (log.filter fresh).length < limit)
    (hfresh : ∀ span, spans span → span t = true → ∀ u, span u = true → fresh u = true) :
    SpansBounded spans limit (t :: all) := by
  intro span hspan
  rw [List.countP_cons]
  cases hin : span t with
  | false =>
    rw [if_neg (by simp)]
    exact h span hspan
  | true =>
    have hle := hcovers.countP_le (hfresh span hspan hin)
    rw [if_pos rfl]
    omega

end Starweaver.Library.RecentLog
