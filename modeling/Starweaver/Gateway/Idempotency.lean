import Starweaver.Library.Interleaving
import Starweaver.Library.AssocMap
import Starweaver.Gateway.ControlPlane

namespace Starweaver.Gateway

open Library.AssocMap Library.Calendar Library.Interleaving Library.Machine

structure StoredResponse (ρ : Type) where
  requestHash : String
  responseRecord : ρ
  expiresAt : DateTime

abbrev StoredResponses (ρ : Type) := AList (fun _ : String × String => StoredResponse ρ)

namespace StoredResponses

variable {ρ : Type} (records : StoredResponses ρ)

def idempotencyResponse (tenantId scopeKey requestHash : String) (now : DateTime) :
    Result (Option ρ) × StoredResponses ρ :=
  match records.lookup (tenantId, scopeKey) with
  | none => (.ok none, records)
  | some record =>
    if record.expiresAt ≤ now then (.ok none, records.erase (tenantId, scopeKey))
    else if record.requestHash ≠ requestHash then (.error (.badRequest "idempotency_key_conflict"), records)
    else (.ok (some record.responseRecord), records)

def recordIdempotencyResponse (tenantId scopeKey requestHash : String) (response : ρ) (now : DateTime) :
    StoredResponses ρ :=
  records.insert (tenantId, scopeKey) ⟨requestHash, response, now.addSeconds idempotencyTtlSeconds⟩

end StoredResponses

def idempotencyScopeKey (operation idempotencyKey : String) : String := s!"{operation}:{idempotencyKey}"

/-- One caller of a create handler: its actor, the time that the handler read at its start and the id that is drawn for
the resource. -/
structure CreateCaller where
  actor : AuthenticatedActor
  now : DateTime
  resourceId : String
deriving DecidableEq, Repr

/-- Where a caller stands between the lookup of a stored response, the mutation and the record of its response. -/
inductive CreateCall (ρ : Type)
  | missed (caller : CreateCaller)
  | performed (caller : CreateCaller) (resource : ρ)
deriving DecidableEq

/-- The store, the stored responses and the callers in progress; then the time of the last lookup, what was performed
and what the successful callers got, the newest first. -/
structure CreateRuntime (σ ρ : Type) where
  store : σ
  records : StoredResponses ρ
  calls : List (CreateCall ρ)
  clock : DateTime
  executed : List (DateTime × ρ)
  answered : List (DateTime × ρ)

inductive CreateAction (ρ : Type)
  | lookUp (caller : CreateCaller)
  | perform (caller : CreateCaller)
  | record (caller : CreateCaller) (resource : ρ)

/-- What identical requests share, with the mutation of their handler. -/
structure CreateFamily (σ ρ : Type) where
  tenantId : String
  scopeKey : String
  requestHash : String
  mutation : CreateCaller → σ → Result (ρ × σ)

section Protocol

variable {σ ρ : Type} [DecidableEq ρ]

def CreateRuntime.move (s : CreateRuntime σ ρ) (call : CreateCall ρ) (entered : List (CreateCall ρ)) :
    Option (CreateRuntime σ ρ) :=
  (resume s.calls call entered).map fun calls => { s with calls := calls }

def createStep (family : CreateFamily σ ρ) (s : CreateRuntime σ ρ) : CreateAction ρ → Option (CreateRuntime σ ρ)
  | .lookUp caller =>
    if caller.actor.tenantId ≠ family.tenantId then none
    else
      let (response, records) :=
        s.records.idempotencyResponse family.tenantId family.scopeKey family.requestHash caller.now
      let s := { s with records := records, clock := caller.now }
      match response with
      | .error _ => some s
      | .ok (some resource) => some { s with answered := (caller.now, resource) :: s.answered }
      | .ok none => some { s with calls := .missed caller :: s.calls }
  | .perform caller =>
    match family.mutation caller s.store with
    | .error _ => s.move (.missed caller) []
    | .ok (resource, store) =>
      (s.move (.missed caller) [.performed caller resource]).map fun next =>
        { next with store := store, executed := (caller.now, resource) :: s.executed }
  | .record caller resource =>
    (s.move (.performed caller resource) []).map fun next =>
      { next with
        records := s.records.recordIdempotencyResponse family.tenantId family.scopeKey family.requestHash resource
          caller.now
        answered := (caller.now, resource) :: s.answered }

/-- Two executions are not within the time to live of each other. -/
def TtlApart (execution other : DateTime × ρ) : Prop :=
  execution.1.addSeconds idempotencyTtlSeconds ≤ other.1 ∨ other.1.addSeconds idempotencyTtlSeconds ≤ execution.1

/-- The mutation is performed at most once within the time to live, and every successful caller within it gets the
resource of that one. -/
structure ExecutedOnce (s : CreateRuntime σ ρ) : Prop where
  apart : s.executed.Pairwise TtlApart
  same : ∀ execution ∈ s.executed, ∀ answer ∈ s.answered, execution.1 ≤ answer.1 →
    answer.1 < execution.1.addSeconds idempotencyTtlSeconds → answer.2 = execution.2

/-- Before the first of the identical requests; the key may have been used for another body. -/
structure CreateStart (family : CreateFamily σ ρ) (s : CreateRuntime σ ρ) : Prop where
  records : ∀ record, s.records.lookup (family.tenantId, family.scopeKey) = some record →
    record.requestHash ≠ family.requestHash
  calls : s.calls = []
  executed : s.executed = []
  answered : s.answered = []

/-- A lookup is made while no identical request is between its own lookup and its record, and not at an earlier time
than the last one. -/
def LookedUpApart (s : CreateRuntime σ ρ) : CreateAction ρ → Prop
  | .lookUp caller => s.calls = [] ∧ s.clock ≤ caller.now
  | _ => True

variable {family : CreateFamily σ ρ} {s next : CreateRuntime σ ρ}

/-- Everything that a step of a create request can do. -/
inductive CreateStepped (family : CreateFamily σ ρ) (s : CreateRuntime σ ρ) :
    CreateAction ρ → CreateRuntime σ ρ → Prop
  | missed {caller : CreateCaller} (htenant : caller.actor.tenantId = family.tenantId)
    (hnone : s.records.lookup (family.tenantId, family.scopeKey) = none) :
    CreateStepped family s (.lookUp caller) { s with clock := caller.now, calls := .missed caller :: s.calls }
  | expired {caller : CreateCaller} {record : StoredResponse ρ} (htenant : caller.actor.tenantId = family.tenantId)
    (hrecord : s.records.lookup (family.tenantId, family.scopeKey) = some record)
    (hexpired : record.expiresAt ≤ caller.now) :
    CreateStepped family s (.lookUp caller) { s with
      records := s.records.erase (family.tenantId, family.scopeKey)
      clock := caller.now
      calls := .missed caller :: s.calls }
  | conflict {caller : CreateCaller} {record : StoredResponse ρ}
    (hrecord : s.records.lookup (family.tenantId, family.scopeKey) = some record)
    (hhash : record.requestHash ≠ family.requestHash) :
    CreateStepped family s (.lookUp caller) { s with clock := caller.now }
  | replayed {caller : CreateCaller} {record : StoredResponse ρ}
    (hrecord : s.records.lookup (family.tenantId, family.scopeKey) = some record)
    (hhash : record.requestHash = family.requestHash) (hlive : ¬ record.expiresAt ≤ caller.now) :
    CreateStepped family s (.lookUp caller) { s with
      clock := caller.now
      answered := (caller.now, record.responseRecord) :: s.answered }
  | refused {caller : CreateCaller} {others : List (CreateCall ρ)} (hcalls : s.calls.Perm ([.missed caller] ++ others)) :
    CreateStepped family s (.perform caller) { s with calls := others }
  | performed {caller : CreateCaller} {others : List (CreateCall ρ)} {resource : ρ} {store : σ}
    (hcalls : s.calls.Perm ([.missed caller] ++ others))
    (hmutation : family.mutation caller s.store = .ok (resource, store)) :
    CreateStepped family s (.perform caller) { s with
      store := store
      calls := .performed caller resource :: others
      executed := (caller.now, resource) :: s.executed }
  | recorded {caller : CreateCaller} {resource : ρ} {others : List (CreateCall ρ)}
    (hcalls : s.calls.Perm ([.performed caller resource] ++ others)) :
    CreateStepped family s (.record caller resource) { s with
      records := s.records.recordIdempotencyResponse family.tenantId family.scopeKey family.requestHash resource
        caller.now
      calls := others
      answered := (caller.now, resource) :: s.answered }

theorem createStep_stepped {action : CreateAction ρ} (h : createStep family s action = some next) :
    CreateStepped family s action next := by
  cases action with
  | lookUp caller =>
    simp only [createStep] at h
    split at h
    · cases h
    · rename_i htenant
      have htenant := not_not.mp htenant
      unfold StoredResponses.idempotencyResponse at h
      cases hlookup : s.records.lookup (family.tenantId, family.scopeKey) with
      | none =>
        rw [hlookup] at h
        cases h
        exact .missed htenant hlookup
      | some record =>
        rw [hlookup] at h
        by_cases hexpired : record.expiresAt ≤ caller.now
        · simp only [hexpired, if_true] at h
          cases h
          exact .expired htenant hlookup hexpired
        · by_cases hhash : record.requestHash = family.requestHash
          · simp only [hexpired, hhash, if_false, ne_eq, not_true_eq_false] at h
            cases h
            exact .replayed hlookup hhash hexpired
          · simp only [hexpired, hhash, if_false, if_true, ne_eq, not_false_eq_true] at h
            cases h
            exact .conflict hlookup hhash
  | perform caller =>
    simp only [createStep] at h
    split at h
    · obtain ⟨others, hcalls, rfl⟩ := moved_cases h
      exact .refused hcalls
    · rename_i resource store hok
      obtain ⟨mid, hmove, rfl⟩ := Option.map_eq_some_iff.mp h
      obtain ⟨others, hcalls, rfl⟩ := moved_cases hmove
      exact .performed hcalls hok
  | record caller resource =>
    obtain ⟨mid, hmove, rfl⟩ := Option.map_eq_some_iff.mp h
    obtain ⟨others, hcalls, rfl⟩ := moved_cases hmove
    exact .recorded hcalls

end Protocol

section Apart

variable {σ ρ : Type} {family : CreateFamily σ ρ} {s next : CreateRuntime σ ρ}

/-- Everything that was performed is past its time to live. -/
def CreateRuntime.Past (s : CreateRuntime σ ρ) : Prop :=
  ∀ execution ∈ s.executed, execution.1.addSeconds idempotencyTtlSeconds ≤ s.clock

/-- Where the single caller in progress stands. -/
inductive OnePhase (family : CreateFamily σ ρ) (s : CreateRuntime σ ρ) : Prop
  | idle (hcalls : s.calls = [])
    (hstored : s.records.lookup (family.tenantId, family.scopeKey) = none → s.Past)
  | missed (caller : CreateCaller) (hcalls : s.calls = [.missed caller]) (hnow : caller.now = s.clock)
    (hnone : s.records.lookup (family.tenantId, family.scopeKey) = none) (hpast : s.Past)
  | performed (caller : CreateCaller) (resource : ρ) (rest : List (DateTime × ρ))
    (hcalls : s.calls = [.performed caller resource]) (hnow : caller.now = s.clock)
    (hnone : s.records.lookup (family.tenantId, family.scopeKey) = none)
    (hexecuted : s.executed = (caller.now, resource) :: rest)

structure OneAtATime (family : CreateFamily σ ρ) (s : CreateRuntime σ ρ) : Prop where
  phase : OnePhase family s
  stored : ∀ record, s.records.lookup (family.tenantId, family.scopeKey) = some record →
    (record.requestHash ≠ family.requestHash ∧ s.executed = []) ∨
      ∃ time rest, s.executed = (time, record.responseRecord) :: rest ∧
        record.expiresAt = time.addSeconds idempotencyTtlSeconds ∧ record.requestHash = family.requestHash
  apart : s.executed.Pairwise fun later earlier => earlier.1.addSeconds idempotencyTtlSeconds ≤ later.1
  times : ∀ execution ∈ s.executed, execution.1 ≤ s.clock
  answers : ∀ answer ∈ s.answered, ∃ execution ∈ s.executed, execution.1 ≤ answer.1 ∧
    answer.1 < execution.1.addSeconds idempotencyTtlSeconds ∧ answer.2 = execution.2

theorem lt_addTtl (now : DateTime) : now < now.addSeconds idempotencyTtlSeconds := by
  show now.nanos < now.nanos + 24 * 3600 * 1000000000
  omega

theorem DateTime.le_trans {a b c : DateTime} (hab : a ≤ b) (hbc : b ≤ c) : a ≤ c := Int.le_trans hab hbc

theorem DateTime.not_le {a b : DateTime} : ¬ a ≤ b ↔ b < a := Int.not_le

theorem OneAtATime.times_lookUp (h : OneAtATime family s) {caller : CreateCaller} (hclock : s.clock ≤ caller.now) :
    ∀ execution ∈ s.executed, execution.1 ≤ caller.now :=
  fun execution hmem => DateTime.le_trans (h.times execution hmem) hclock

/-- When the newest execution has expired, so have the older ones. -/
theorem OneAtATime.past_of_expired (h : OneAtATime family s) {record : StoredResponse ρ} {now : DateTime}
    (hrecord : s.records.lookup (family.tenantId, family.scopeKey) = some record) (hexpired : record.expiresAt ≤ now) :
    ∀ execution ∈ s.executed, execution.1.addSeconds idempotencyTtlSeconds ≤ now := by
  rcases h.stored record hrecord with ⟨-, hempty⟩ | ⟨time, rest, hexecuted, hexpires, -⟩
  · simp [hempty]
  · have hpairs := h.apart
    rw [hexpires] at hexpired
    rw [hexecuted] at hpairs ⊢
    refine List.forall_mem_cons.mpr ⟨hexpired, fun execution hold => ?_⟩
    have hnewer : time ≤ time.addSeconds idempotencyTtlSeconds := Int.le_of_lt (lt_addTtl time)
    exact DateTime.le_trans ((List.pairwise_cons.mp hpairs).1 execution hold) (DateTime.le_trans hnewer hexpired)

theorem OneAtATime.missed_of_perm (h : OneAtATime family s) {caller : CreateCaller} {others : List (CreateCall ρ)}
    (hperm : s.calls.Perm ([.missed caller] ++ others)) : others = [] ∧ caller.now = s.clock ∧
      s.records.lookup (family.tenantId, family.scopeKey) = none ∧ s.Past := by
  cases h.phase with
  | idle hcalls =>
    rw [hcalls] at hperm
    exact absurd hperm.symm.eq_nil (by simp)
  | missed other hcalls hnow hnone hpast =>
    rw [hcalls] at hperm
    have heq := List.singleton_perm.mp hperm
    simp only [List.singleton_append, List.cons.injEq, CreateCall.missed.injEq] at heq
    obtain ⟨rfl, rfl⟩ := heq
    exact ⟨rfl, hnow, hnone, hpast⟩
  | performed other resource rest hcalls =>
    rw [hcalls] at hperm
    have heq := List.singleton_perm.mp hperm
    simp at heq

theorem OneAtATime.performed_of_perm (h : OneAtATime family s) {caller : CreateCaller} {resource : ρ}
    {others : List (CreateCall ρ)} (hperm : s.calls.Perm ([.performed caller resource] ++ others)) :
    others = [] ∧ ∃ rest, s.executed = (caller.now, resource) :: rest := by
  cases h.phase with
  | idle hcalls =>
    rw [hcalls] at hperm
    exact absurd hperm.symm.eq_nil (by simp)
  | missed other hcalls =>
    rw [hcalls] at hperm
    have heq := List.singleton_perm.mp hperm
    simp at heq
  | performed other made rest hcalls hnow hnone hexecuted =>
    rw [hcalls] at hperm
    have heq := List.singleton_perm.mp hperm
    simp only [List.singleton_append, List.cons.injEq, CreateCall.performed.injEq] at heq
    obtain ⟨⟨rfl, rfl⟩, rfl⟩ := heq
    exact ⟨rfl, rest, hexecuted⟩

theorem OneAtATime.step (h : OneAtATime family s) {action : CreateAction ρ} (hapart : LookedUpApart s action)
    (hstep : CreateStepped family s action next) : OneAtATime family next := by
  cases hstep with
  | @missed caller htenant hnone =>
    obtain ⟨hcalls, hclock⟩ := hapart
    refine ⟨.missed caller (by rw [hcalls]) rfl hnone ?_, h.stored, h.apart, h.times_lookUp hclock, h.answers⟩
    cases h.phase with
    | idle _ hstored => exact fun execution hmem => DateTime.le_trans (hstored hnone execution hmem) hclock
    | missed other hother =>
      rw [hcalls] at hother
      cases hother
    | performed other resource rest hother =>
      rw [hcalls] at hother
      cases hother
  | @expired caller record htenant hrecord hexpired =>
    obtain ⟨hcalls, hclock⟩ := hapart
    refine ⟨.missed caller (by rw [hcalls]) rfl (AList.lookup_erase _ _) (h.past_of_expired hrecord hexpired), ?_,
      h.apart, h.times_lookUp hclock, h.answers⟩
    intro other hother
    rw [AList.lookup_erase] at hother
    cases hother
  | @conflict caller record hrecord hhash =>
    obtain ⟨hcalls, hclock⟩ := hapart
    refine ⟨.idle hcalls fun hnone => ?_, h.stored, h.apart, h.times_lookUp hclock, h.answers⟩
    rw [hrecord] at hnone
    cases hnone
  | @replayed caller record hrecord hhash hlive =>
    obtain ⟨hcalls, hclock⟩ := hapart
    obtain ⟨time, rest, hexecuted, hexpires, -⟩ := (h.stored record hrecord).resolve_left fun hother => hother.1 hhash
    have hmem : (time, record.responseRecord) ∈ s.executed := by
      rw [hexecuted]
      exact List.mem_cons_self
    refine ⟨.idle hcalls fun hnone => ?_, h.stored, h.apart, h.times_lookUp hclock,
      List.forall_mem_cons.mpr ⟨⟨_, hmem, h.times_lookUp hclock _ hmem, ?_, rfl⟩, h.answers⟩⟩
    · rw [hrecord] at hnone
      cases hnone
    · rw [← hexpires]
      exact DateTime.not_le.mp hlive
  | refused hcalls =>
    obtain ⟨rfl, -, hnone, hpast⟩ := h.missed_of_perm hcalls
    exact ⟨.idle rfl fun _ => hpast, h.stored, h.apart, h.times, h.answers⟩
  | @performed caller others resource store hcalls hmutation =>
    obtain ⟨rfl, hnow, hnone, hpast⟩ := h.missed_of_perm hcalls
    refine ⟨.performed caller resource _ rfl hnow hnone rfl, ?_, List.pairwise_cons.mpr ⟨?_, h.apart⟩,
      List.forall_mem_cons.mpr ⟨?_, h.times⟩, ?_⟩
    · intro record hrecord
      rw [hnone] at hrecord
      cases hrecord
    · intro execution hmem
      rw [hnow]
      exact hpast execution hmem
    · rw [hnow]
      exact Int.le_refl _
    · intro answer hanswer
      obtain ⟨execution, hmem, hrest⟩ := h.answers answer hanswer
      exact ⟨execution, List.mem_cons_of_mem _ hmem, hrest⟩
  | @recorded caller resource others hcalls =>
    obtain ⟨rfl, rest, hexecuted⟩ := h.performed_of_perm hcalls
    refine ⟨.idle rfl ?_, ?_, h.apart, h.times, List.forall_mem_cons.mpr ⟨?_, h.answers⟩⟩
    · intro hnone
      simp only [StoredResponses.recordIdempotencyResponse, AList.lookup_insert] at hnone
      cases hnone
    · intro record hrecord
      simp only [StoredResponses.recordIdempotencyResponse, AList.lookup_insert, Option.some.injEq] at hrecord
      subst hrecord
      exact .inr ⟨caller.now, rest, hexecuted, rfl, rfl⟩
    · refine ⟨(caller.now, resource), ?_, Int.le_refl _, lt_addTtl _, rfl⟩
      rw [hexecuted]
      exact List.mem_cons_self

/-- The times to live of two executions do not overlap, so each answer has one execution. -/
theorem OneAtATime.executedOnce (h : OneAtATime family s) : ExecutedOnce s := by
  have hapart : s.executed.Pairwise TtlApart := h.apart.imp Or.inr
  refine ⟨hapart, ?_⟩
  intro execution hexecution answer hanswer hafter hbefore
  obtain ⟨own, hown, hafter', hbefore', heq⟩ := h.answers answer hanswer
  by_cases hsame : execution = own
  · rw [heq, hsame]
  · have : Std.Symm (TtlApart : DateTime × ρ → DateTime × ρ → Prop) := ⟨fun _ _ => Or.symm⟩
    rcases hapart.forall hexecution hown hsame with hle | hle
    · exact absurd (DateTime.le_trans hle hafter') (DateTime.not_le.mpr hbefore)
    · exact absurd (DateTime.le_trans hle hafter) (DateTime.not_le.mpr hbefore')

end Apart

section Refusing

variable {σ ρ : Type} {family : CreateFamily σ ρ} {s next : CreateRuntime σ ρ} {Taken : σ → Prop}

/-- The mutation leaves a mark in the store and refuses a store that has it. -/
structure RefusesSecond (family : CreateFamily σ ρ) (Taken : σ → Prop) : Prop where
  taken : ∀ caller store resource changed, caller.actor.tenantId = family.tenantId →
    family.mutation caller store = .ok (resource, changed) → Taken changed
  refuses : ∀ caller store resource changed, caller.actor.tenantId = family.tenantId → Taken store →
    family.mutation caller store ≠ .ok (resource, changed)

def CreateCall.caller : CreateCall ρ → CreateCaller
  | .missed caller => caller
  | .performed caller _ => caller

/-- Nothing was performed so far, or one thing, which everyone gets. -/
inductive OnlyPhase (family : CreateFamily σ ρ) (Taken : σ → Prop) (s : CreateRuntime σ ρ) : Prop
  | untaken (hexecuted : s.executed = []) (hanswered : s.answered = [])
    (hother : ∀ record, s.records.lookup (family.tenantId, family.scopeKey) = some record →
      record.requestHash ≠ family.requestHash)
    (hcalls : ∀ caller resource, .performed caller resource ∉ s.calls)
  | taken (execution : DateTime × ρ) (hexecuted : s.executed = [execution]) (htaken : Taken s.store)
    (hanswered : ∀ answer ∈ s.answered, answer.2 = execution.2)
    (hrecord : ∀ record, s.records.lookup (family.tenantId, family.scopeKey) = some record →
      record.requestHash = family.requestHash → record.responseRecord = execution.2)
    (hcalls : ∀ caller resource, .performed caller resource ∈ s.calls → resource = execution.2)

structure OnlyOne (family : CreateFamily σ ρ) (Taken : σ → Prop) (s : CreateRuntime σ ρ) : Prop where
  tenants : ∀ call ∈ s.calls, call.caller.actor.tenantId = family.tenantId
  phase : OnlyPhase family Taken s

theorem OnlyOne.missed (h : OnlyOne family Taken s) {caller : CreateCaller}
    (htenant : caller.actor.tenantId = family.tenantId) {records : StoredResponses ρ}
    (hrecords : ∀ record, records.lookup (family.tenantId, family.scopeKey) = some record →
      s.records.lookup (family.tenantId, family.scopeKey) = some record) :
    OnlyOne family Taken { s with records := records, clock := caller.now, calls := .missed caller :: s.calls } := by
  refine ⟨List.forall_mem_cons.mpr ⟨htenant, h.tenants⟩, ?_⟩
  cases h.phase with
  | untaken hexecuted hanswered hother hcalls =>
    refine .untaken hexecuted hanswered (fun record hlookup => hother record (hrecords record hlookup))
      fun other resource hmem => ?_
    exact hcalls other resource (by simpa using hmem)
  | taken execution hexecuted htaken hanswered hrecord hcalls =>
    refine .taken execution hexecuted htaken hanswered (fun record hlookup => hrecord record (hrecords record hlookup))
      fun other resource hmem => ?_
    exact hcalls other resource (by simpa using hmem)

theorem OnlyOne.step (hrefuses : RefusesSecond family Taken) (h : OnlyOne family Taken s) {action : CreateAction ρ}
    (hstep : CreateStepped family s action next) : OnlyOne family Taken next := by
  cases hstep with
  | missed htenant hnone => exact h.missed htenant fun _ => id
  | expired htenant hrecord hexpired =>
    refine h.missed htenant fun record hlookup => ?_
    rw [AList.lookup_erase] at hlookup
    cases hlookup
  | conflict hrecord hhash =>
    refine ⟨h.tenants, ?_⟩
    cases h.phase with
    | untaken hexecuted hanswered hother hcalls => exact .untaken hexecuted hanswered hother hcalls
    | taken execution hexecuted htaken hanswered hrecord hcalls =>
      exact .taken execution hexecuted htaken hanswered hrecord hcalls
  | @replayed caller record hrecord hhash hlive =>
    refine ⟨h.tenants, ?_⟩
    cases h.phase with
    | untaken hexecuted hanswered hother hcalls => exact absurd hhash (hother record hrecord)
    | taken execution hexecuted htaken hanswered hstored hcalls =>
      exact .taken execution hexecuted htaken
        (List.forall_mem_cons.mpr ⟨hstored record hrecord hhash, hanswered⟩) hstored hcalls
  | @refused caller others hperm =>
    have hmem : others ⊆ s.calls := List.Subset.trans (List.subset_append_right _ _) hperm.symm.subset
    refine ⟨fun call hcall => h.tenants call (hmem hcall), ?_⟩
    cases h.phase with
    | untaken hexecuted hanswered hother hcalls =>
      exact .untaken hexecuted hanswered hother fun other resource hcall => hcalls other resource (hmem hcall)
    | taken execution hexecuted htaken hanswered hrecord hcalls =>
      exact .taken execution hexecuted htaken hanswered hrecord fun other resource hcall =>
        hcalls other resource (hmem hcall)
  | @performed caller others resource store hperm hmutation =>
    have hmem : others ⊆ s.calls := List.Subset.trans (List.subset_append_right _ _) hperm.symm.subset
    have htenant : caller.actor.tenantId = family.tenantId :=
      h.tenants (.missed caller) (hperm.mem_iff.mpr (List.mem_append_left _ (List.mem_singleton_self _)))
    refine ⟨List.forall_mem_cons.mpr ⟨htenant, fun call hcall => h.tenants call (hmem hcall)⟩, ?_⟩
    cases h.phase with
    | untaken hexecuted hanswered hother hcalls =>
      refine .taken (caller.now, resource) (by rw [hexecuted])
        (hrefuses.taken caller s.store resource store htenant hmutation) (by simp [hanswered])
        (fun record hlookup hhash => absurd hhash (hother record hlookup)) fun other made hcall => ?_
      rcases List.mem_cons.mp hcall with heq | hold
      · cases heq
        rfl
      · exact absurd (hmem hold) (hcalls other made)
    | taken execution hexecuted htaken hanswered hrecord hcalls =>
      exact absurd hmutation (hrefuses.refuses caller s.store resource store htenant htaken)
  | @recorded caller resource others hperm =>
    have hmem : others ⊆ s.calls := List.Subset.trans (List.subset_append_right _ _) hperm.symm.subset
    have hown : .performed caller resource ∈ s.calls :=
      hperm.mem_iff.mpr (List.mem_append_left _ (List.mem_singleton_self _))
    refine ⟨fun call hcall => h.tenants call (hmem hcall), ?_⟩
    cases h.phase with
    | untaken hexecuted hanswered hother hcalls => exact absurd hown (hcalls caller resource)
    | taken execution hexecuted htaken hanswered hrecord hcalls =>
      refine .taken execution hexecuted htaken (List.forall_mem_cons.mpr ⟨hcalls caller resource hown, hanswered⟩) ?_
        fun other made hcall => hcalls other made (hmem hcall)
      intro record hlookup _
      simp only [StoredResponses.recordIdempotencyResponse, AList.lookup_insert, Option.some.injEq] at hlookup
      subst hlookup
      exact hcalls caller resource hown

theorem OnlyOne.executedOnce (h : OnlyOne family Taken s) : ExecutedOnce s := by
  cases h.phase with
  | untaken hexecuted hanswered hother hcalls => exact ⟨by simp [hexecuted], by simp [hexecuted]⟩
  | taken execution hexecuted htaken hanswered hrecord hcalls =>
    refine ⟨by simp [hexecuted], ?_⟩
    intro other hother answer hanswer _ _
    rw [hexecuted] at hother
    rw [List.mem_singleton.mp hother]
    exact hanswered answer hanswer

end Refusing

section Runs

variable {σ ρ : Type} [DecidableEq ρ] {family : CreateFamily σ ρ} {start final : CreateRuntime σ ρ}
  {actions : List (CreateAction ρ)}

theorem executedOnce_of_apart (hstart : CreateStart family start)
    (hmeets : Meets (createStep family) LookedUpApart start actions)
    (hrun : run (createStep family) start actions = some final) : ExecutedOnce final := by
  have hone : OneAtATime family start := by
    refine ⟨.idle hstart.calls fun _ => ?_, ?_, ?_, ?_, ?_⟩
    · simp [CreateRuntime.Past, hstart.executed]
    · exact fun record hrecord => .inl ⟨hstart.records record hrecord, hstart.executed⟩
    · simp [hstart.executed]
    · simp [hstart.executed]
    · simp [hstart.answered]
  have hstep (s : CreateRuntime σ ρ) (action : CreateAction ρ) (next : CreateRuntime σ ρ) (h : OneAtATime family s)
      (hapart : LookedUpApart s action) (hnext : createStep family s action = some next) : OneAtATime family next :=
    h.step hapart (createStep_stepped hnext)
  exact (run_invariant hstep hone hmeets hrun).executedOnce

theorem executedOnce_of_refusing {Taken : σ → Prop} (hrefuses : RefusesSecond family Taken)
    (hstart : CreateStart family start) (hrun : run (createStep family) start actions = some final) :
    ExecutedOnce final := by
  have hone : OnlyOne family Taken start :=
    ⟨by simp [hstart.calls], .untaken hstart.executed hstart.answered hstart.records (by simp [hstart.calls])⟩
  have hstep (s : CreateRuntime σ ρ) (action : CreateAction ρ) (next : CreateRuntime σ ρ)
      (h : OnlyOne family Taken s) (hnext : createStep family s action = some next) : OnlyOne family Taken next :=
    h.step hrefuses (createStep_stepped hnext)
  exact (run_invariant_always hstep hone hrun).executedOnce

end Runs

end Starweaver.Gateway
