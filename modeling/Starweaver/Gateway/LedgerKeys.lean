import Starweaver.Library.Decimal
import Starweaver.Gateway.UsageLedger

namespace Starweaver.Gateway

open Library Library.Calendar Library.MachineInt Library.Separated

theorem BucketKind.asStr_injective : Function.Injective BucketKind.asStr := by
  intro a b h
  cases a <;> cases b <;> first | rfl | exact absurd h (by decide)

theorem UsageStatus.asStr_injective : Function.Injective UsageStatus.asStr := by
  intro a b h
  cases a <;> cases b <;> first | rfl | exact absurd h (by decide)

theorem UsageConfidence.asStr_injective : Function.Injective UsageConfidence.asStr := by
  intro a b h
  cases a <;> cases b <;> first | rfl | exact absurd h (by decide)

theorem BucketKind.barFree_asStr (kind : BucketKind) : BarFree kind.asStr := by
  cases kind <;> decide

/-- Whatever the ids are, a bucket key tells the kind and the second of the bucket start. -/
theorem usageBucketKey_suffix {d d' : UsageDimensions} {kind kind' : BucketKind} {start start' : DateTime}
    (h : usageBucketKey d kind start = usageBucketKey d' kind' start') :
    kind = kind' ∧ start.timestamp = start'.timestamp := by
  obtain ⟨hparts, htime⟩ := bar_inj_right (barFree_decimal _) (barFree_decimal _) h
  rw [joined_append_singleton (by simp [UsageDimensions.keyParts]),
    joined_append_singleton (by simp [UsageDimensions.keyParts])] at hparts
  obtain ⟨-, hkind⟩ := bar_inj_right kind.barFree_asStr kind'.barFree_asStr hparts
  exact ⟨BucketKind.asStr_injective hkind, decimal_injective htime⟩

def SafeId (id : String) : Prop := id ≠ "" ∧ BarFree id

instance (id : String) : Decidable (SafeId id) := inferInstanceAs (Decidable (_ ∧ _))

structure UsageDimensions.Safe (d : UsageDimensions) : Prop where
  tenant : SafeId d.tenantId
  ids : ∀ id ∈ d.ids, ∀ text, id = some text → SafeId text

theorem getD_barFree {id : Option String} (h : ∀ text, id = some text → SafeId text) : BarFree (id.getD "") := by
  cases id with
  | none => decide
  | some text => exact (h text rfl).2

theorem getD_injective {id id' : Option String} (h : ∀ text, id = some text → SafeId text)
    (h' : ∀ text, id' = some text → SafeId text) (heq : id.getD "" = id'.getD "") : id = id' := by
  cases id with
  | none =>
    cases id' with
    | none => rfl
    | some text => exact absurd heq.symm (h' text rfl).1
  | some text =>
    cases id' with
    | none => exact absurd heq (h text rfl).1
    | some text' => exact congrArg some heq

theorem UsageDimensions.Safe.barFree_keyParts {d : UsageDimensions} (h : d.Safe) : ∀ part ∈ d.keyParts, BarFree part := by
  intro part hpart
  simp only [keyParts, List.mem_append, List.mem_cons, List.mem_map, List.not_mem_nil, or_false] at hpart
  rcases hpart with (rfl | ⟨id, hid, rfl⟩) | rfl | rfl | rfl
  · exact h.tenant.2
  · exact getD_barFree (h.ids id hid)
  · cases d.protocolFamily <;> decide
  · cases d.status <;> decide
  · cases d.usageConfidence <;> decide

theorem UsageDimensions.keyParts_injective {d d' : UsageDimensions} (h : d.Safe) (h' : d'.Safe)
    (heq : d.keyParts = d'.keyParts) : d = d' := by
  have hids := h.ids
  have hids' := h'.ids
  simp only [keyParts, ids, List.map_cons, List.map_nil, List.cons_append, List.nil_append, List.cons.injEq,
    and_true, List.forall_mem_cons, List.not_mem_nil, IsEmpty.forall_iff, implies_true] at heq hids hids'
  obtain ⟨t, o, p, r, m, a, k, l, g, e, c, y, n, f, s, u⟩ := heq
  obtain ⟨i1, i2, i3, i4, i5, i6, i7, i8, i9, i10, i11, i12⟩ := hids
  obtain ⟨j1, j2, j3, j4, j5, j6, j7, j8, j9, j10, j11, j12⟩ := hids'
  cases d
  cases d'
  simp only [UsageDimensions.mk.injEq]
  exact ⟨t, getD_injective i1 j1 o, getD_injective i2 j2 p, getD_injective i3 j3 r, getD_injective i4 j4 m,
    getD_injective i5 j5 a, getD_injective i6 j6 k, getD_injective i7 j7 l, getD_injective i8 j8 g,
    getD_injective i9 j9 e, getD_injective i10 j10 c, getD_injective i11 j11 y, getD_injective i12 j12 n,
    ProtocolFamily.asStr_injective f, UsageStatus.asStr_injective s, UsageConfidence.asStr_injective u⟩

theorem usageBucketKey_injective {d d' : UsageDimensions} {kind kind' : BucketKind} {start start' : DateTime}
    (hd : d.Safe) (hd' : d'.Safe) (h : usageBucketKey d kind start = usageBucketKey d' kind' start') : d = d' := by
  obtain ⟨hparts, -⟩ := bar_inj_right (barFree_decimal _) (barFree_decimal _) h
  have hfree : ∀ {d : UsageDimensions} (kind : BucketKind), d.Safe →
      ∀ part ∈ d.keyParts ++ [kind.asStr], BarFree part := by
    intro d kind hsafe part hpart
    rcases List.mem_append.mp hpart with hmem | hmem
    · exact hsafe.barFree_keyParts part hmem
    · rw [List.mem_singleton.mp hmem]
      exact kind.barFree_asStr
  have hlists := joined_inj (by simp [UsageDimensions.keyParts, UsageDimensions.ids]) (hfree kind hd)
    (hfree kind' hd') hparts
  exact UsageDimensions.keyParts_injective hd hd' (List.append_inj_left hlists
    (by simp [UsageDimensions.keyParts, UsageDimensions.ids]))

end Starweaver.Gateway
