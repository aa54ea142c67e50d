import Mathlib.Data.List.Perm.Basic

namespace Starweaver.Library.Interleaving

variable {κ α : Type} [BEq κ] [LawfulBEq κ]

/-- One of the calls in progress takes a step, and the entered calls stand in its place. -/
def resume (calls : List κ) (call : κ) (entered : List κ) : Option (List κ) :=
  if call ∈ calls then some (entered ++ calls.erase call) else none

theorem resume_cases {calls entered next : List κ} {call : κ} (h : resume calls call entered = some next) :
    ∃ others, calls.Perm ([call] ++ others) ∧ next = entered ++ others := by
  unfold resume at h
  split at h
  · rename_i hmem
    cases h
    exact ⟨calls.erase call, List.perm_cons_erase hmem, rfl⟩
  · cases h

theorem resume_of_mem {calls : List κ} {call : κ} (h : call ∈ calls) (entered : List κ) :
    resume calls call entered = some (entered ++ calls.erase call) := if_pos h

/-- Everything that the step of a call does to a state that holds the calls in progress. -/
theorem moved_cases {σ : Type} {calls entered : List κ} {call : κ} {f : List κ → σ} {next : σ}
    (h : (resume calls call entered).map f = some next) :
    ∃ others, calls.Perm ([call] ++ others) ∧ next = f (entered ++ others) := by
  obtain ⟨moved, hresume, rfl⟩ := Option.map_eq_some_iff.mp h
  obtain ⟨others, hcalls, rfl⟩ := resume_cases hresume
  exact ⟨others, hcalls, rfl⟩

omit [BEq κ] [LawfulBEq κ]

variable {calls removed others : List κ}

theorem mem_of_moved {call : κ} (h : calls.Perm ([call] ++ others)) : call ∈ calls :=
  h.mem_iff.mpr List.mem_cons_self

theorem perm_eraseIdx {call : κ} {index : Nat} (h : calls[index]? = some call) :
    calls.Perm (call :: calls.eraseIdx index) := by
  obtain ⟨hlength, rfl⟩ := List.getElem?_eq_some_iff.mp h
  exact (List.getElem_cons_eraseIdx_perm hlength).symm

/-- The calls that stay have none of what tells the call in step apart. -/
theorem ne_of_eraseIdx {f : κ → α} {call : κ} {index : Nat} (hapart : calls.Pairwise fun a b => f a ≠ f b)
    (h : calls[index]? = some call) : ∀ other ∈ calls.eraseIdx index, f other ≠ f call := by
  intro other hother
  exact ((List.pairwise_cons.mp (hapart.perm (perm_eraseIdx h) fun hne => Ne.symm hne)).1 other hother).symm

/-- What the calls in progress hold changes by what the call in step holds. -/
theorem flatMap_moved (hcalls : calls.Perm (removed ++ others)) (f : κ → List α) {entered : List κ} (extra : List α)
    (hf : (removed.flatMap f).Perm (extra ++ entered.flatMap f)) :
    (calls.flatMap f).Perm (extra ++ (entered ++ others).flatMap f) := by
  have hall := hcalls.flatMap_right f
  rw [List.flatMap_append] at hall
  rw [List.flatMap_append, ← List.append_assoc]
  exact hall.trans (hf.append_right _)

theorem forall_moved {p q : κ → Prop} (hcalls : calls.Perm (removed ++ others)) (hold : ∀ call ∈ calls, p call)
    (hkept : ∀ call ∈ others, p call → q call) (entered : List κ) (hentered : ∀ call ∈ entered, q call) :
    ∀ call ∈ entered ++ others, q call := by
  intro call hcall
  rcases List.mem_append.mp hcall with hnew | hother
  · exact hentered call hnew
  · exact hkept call hother (hold call (hcalls.mem_iff.mpr (List.mem_append_right _ hother)))

theorem countP_moved {call : κ} (hcalls : calls.Perm ([call] ++ others)) (p : κ → Bool) (entered : List κ) :
    (entered ++ others).countP p + [call].countP p = calls.countP p + entered.countP p := by
  rw [hcalls.countP_eq, List.countP_append, List.countP_append]
  omega

theorem countP_flatMap_moved (hcalls : calls.Perm (removed ++ others)) (f : κ → List α) (p : α → Bool) :
    (calls.flatMap f).countP p = (removed.flatMap f).countP p + (others.flatMap f).countP p := by
  rw [(hcalls.flatMap_right f).countP_eq, List.flatMap_append, List.countP_append]

end Starweaver.Library.Interleaving
