import Starweaver.Library.Interleaving
import Starweaver.Library.Machine
import Starweaver.Gateway.LedgerCount

namespace Starweaver.Gateway

open Library.Calendar Library.Checks Library.Counters Library.Interleaving Library.Machine Library.MachineInt

/-- A request budget that the preflight enforces, with its hard limit. -/
structure RequestBudget where
  policy : BudgetPolicyRecord
  limit : Int
  enforced : runtimeBudgetPolicyIsPreflightEnforced policy = true
  requests : policy.limitKind = .requests
  hardLimit : policy.hardLimit = some limit
  positive : 0 < limit

inductive BudgetPhase
  | read (now : DateTime) (current : Int)
  | overLimit (now : DateTime)
  | admitted (now : DateTime)
  | running (now : DateTime) (leaseId : String)
  | recorded (now : DateTime) (leaseId : String)
deriving DecidableEq, Repr

structure BudgetRuntime where
  ledger : UsageStore
  store : RuntimePolicyStore
  requests : List (String × BudgetPhase)

def BudgetRuntime.empty : BudgetRuntime := ⟨.empty, .empty, []⟩

inductive BudgetAction
  | read (requestId : String) (now : DateTime)
  | increment (requestId : String) (now : DateTime) (current : Int)
  | compensate (requestId : String) (now : DateTime)
  | recordLease (requestId : String) (now : DateTime) (leaseId : String)
  | recordUsage (requestId : String) (now : DateTime) (leaseId : String) (event : UsageEventRecord)
  | release (requestId : String) (now : DateTime) (leaseId : String)

namespace BudgetRuntime

def move (s : BudgetRuntime) (request : String × BudgetPhase) (next : List (String × BudgetPhase))
    (ledger : UsageStore) (store : RuntimePolicyStore) : Option BudgetRuntime :=
  (resume s.requests request next).map fun requests => ⟨ledger, store, requests⟩

end BudgetRuntime

/-- One atomic step of a request of the budget. The provider runs between the lease and the usage event and touches
neither the ledger nor the counters. -/
def budgetStep (budget : RequestBudget) (s : BudgetRuntime) : BudgetAction → Option BudgetRuntime
  | .read requestId now =>
    -- memory holds fewer than `i64Max` requests at once
    if i64Max ≤ (s.requests.length : Int) then none
    else some { s with requests := (requestId, .read now (budgetLedgerValue budget.policy s.ledger now)) :: s.requests }
  | .increment requestId now current =>
    if runtimeBudgetExceeded budget.policy current budget.limit then
      s.move (requestId, .read now current) [] s.ledger s.store
    else
      let counterKey := runtimeBudgetReservationKey budget.policy now
      let (reserved, reservedAfterIncrement) := s.store.adjustRuntimePolicyCounter counterKey 1
      if budget.limit < saturatingAdd current reservedAfterIncrement then
        s.move (requestId, .read now current) [(requestId, .overLimit now)] s.ledger reserved
      else s.move (requestId, .read now current) [(requestId, .admitted now)] s.ledger reserved
  | .compensate requestId now =>
    s.move (requestId, .overLimit now) [] s.ledger
      (s.store.adjustRuntimePolicyCounter (runtimeBudgetReservationKey budget.policy now) (-1)).1
  | .recordLease requestId now leaseId =>
    s.move (requestId, .admitted now) [(requestId, .running now leaseId)] s.ledger
      (s.store.recordRuntimeBudgetLease (budgetLease budget.policy requestId now leaseId))
  | .recordUsage requestId now leaseId event =>
    s.move (requestId, .running now leaseId) [(requestId, .recorded now leaseId)] (s.ledger.recordUsageEvent event)
      s.store
  | .release requestId now leaseId =>
    s.move (requestId, .recorded now leaseId) [] s.ledger (releaseRuntimeBudgetReservations s.store
      [⟨leaseId, runtimeBudgetReservationKey budget.policy now, 1⟩])

def BudgetPhase.unitKey (policy : BudgetPolicyRecord) : BudgetPhase → Option String
  | .read _ _ => none
  | .overLimit now | .admitted now | .running now _ | .recorded now _ => some (runtimeBudgetReservationKey policy now)

def BudgetPhase.runsIn (policy : BudgetPolicyRecord) (time : DateTime) : BudgetPhase → Bool
  | .admitted now | .running now _ => runtimeBudgetPeriodMatches policy now time
  | _ => false

def holdsUnit (budget : RequestBudget) (key : String) (request : String × BudgetPhase) : Bool :=
  request.2.unitKey budget.policy == some key

def runsIn (budget : RequestBudget) (time : DateTime) (request : String × BudgetPhase) : Bool :=
  request.2.runsIn budget.policy time

def BudgetRuntime.unitsAt (budget : RequestBudget) (s : BudgetRuntime) (key : String) : Nat :=
  s.requests.countP (holdsUnit budget key)

def BudgetRuntime.runningIn (budget : RequestBudget) (s : BudgetRuntime) (time : DateTime) : Nat :=
  s.requests.countP (runsIn budget time)

section Steps

variable {budget : RequestBudget} {s next : BudgetRuntime} {request : String × BudgetPhase}
  {entered : List (String × BudgetPhase)} {ledger : UsageStore} {store : RuntimePolicyStore}

theorem countP_one (p : String × BudgetPhase → Bool) (request : String × BudgetPhase) :
    [request].countP p = (p request).toNat := by
  rw [List.countP_singleton]
  cases p request <;> rfl

theorem holdsUnit_of_unitKey {key held : String} (hheld : request.2.unitKey budget.policy = some held) :
    holdsUnit budget key request = decide (held = key) := by
  unfold holdsUnit
  rw [hheld, Option.some_beq_some, beq_eq_decide]

section Phases

variable (requestId leaseId key : String) (now time : DateTime) (current : Int)

@[simp] theorem holdsUnit_read : holdsUnit budget key (requestId, .read now current) = false := rfl

@[simp] theorem holdsUnit_overLimit : holdsUnit budget key (requestId, .overLimit now) =
    decide (runtimeBudgetReservationKey budget.policy now = key) :=
  holdsUnit_of_unitKey rfl

@[simp] theorem holdsUnit_admitted : holdsUnit budget key (requestId, .admitted now) =
    decide (runtimeBudgetReservationKey budget.policy now = key) :=
  holdsUnit_of_unitKey rfl

@[simp] theorem holdsUnit_running : holdsUnit budget key (requestId, .running now leaseId) =
    decide (runtimeBudgetReservationKey budget.policy now = key) :=
  holdsUnit_of_unitKey rfl

@[simp] theorem holdsUnit_recorded : holdsUnit budget key (requestId, .recorded now leaseId) =
    decide (runtimeBudgetReservationKey budget.policy now = key) :=
  holdsUnit_of_unitKey rfl

@[simp] theorem runsIn_read : runsIn budget time (requestId, .read now current) = false := rfl

@[simp] theorem runsIn_overLimit : runsIn budget time (requestId, .overLimit now) = false := rfl

@[simp] theorem runsIn_admitted : runsIn budget time (requestId, .admitted now) =
    runtimeBudgetPeriodMatches budget.policy now time := rfl

@[simp] theorem runsIn_running : runsIn budget time (requestId, .running now leaseId) =
    runtimeBudgetPeriodMatches budget.policy now time := rfl

@[simp] theorem runsIn_recorded : runsIn budget time (requestId, .recorded now leaseId) = false := rfl

end Phases

/-- No unit is lost, and events and running requests together stay within the limit. -/
structure WithinBudget (budget : RequestBudget) (s : BudgetRuntime) : Prop where
  reflects : LedgerReflects s.ledger.usageEvents s.ledger.ledgerBuckets
  fits : (s.requests.length : Int) ≤ i64Max
  units : ∀ key, (s.unitsAt budget key : Int) ≤ s.store.runtimePolicyCounter key
  bound : ∀ time, ((countedEvents budget.policy s.ledger time).length : Int) + s.runningIn budget time ≤ budget.limit

theorem WithinBudget.move (h : WithinBudget budget s) {others : List (String × BudgetPhase)}
    (hcalls : s.requests.Perm ([request] ++ others)) (hentered : entered.length ≤ 1)
    (hreflects : LedgerReflects ledger.usageEvents ledger.ledgerBuckets)
    (hunits : ∀ key, (s.unitsAt budget key : Int) + entered.countP (holdsUnit budget key) -
      [request].countP (holdsUnit budget key) ≤ store.runtimePolicyCounter key)
    (hbound : ∀ time, ((countedEvents budget.policy ledger time).length : Int) + s.runningIn budget time +
      entered.countP (runsIn budget time) - [request].countP (runsIn budget time) ≤ budget.limit) :
    WithinBudget budget ⟨ledger, store, entered ++ others⟩ := by
  refine ⟨hreflects, ?_, fun key => ?_, fun time => ?_⟩
  · have hfits := h.fits
    have hlength := hcalls.length_eq
    simp only [List.length_append, List.length_singleton] at hlength ⊢
    omega
  · have hcount := countP_moved hcalls (holdsUnit budget key) entered
    have hkey := hunits key
    unfold BudgetRuntime.unitsAt at hkey ⊢
    simp only
    omega
  · have hcount := countP_moved hcalls (runsIn budget time) entered
    have htime := hbound time
    unfold BudgetRuntime.runningIn at htime ⊢
    simp only
    omega

theorem runningIn_le_unitsAt (budget : RequestBudget) (s : BudgetRuntime) (time : DateTime) :
    s.runningIn budget time ≤ s.unitsAt budget (runtimeBudgetReservationKey budget.policy time) := by
  unfold BudgetRuntime.runningIn BudgetRuntime.unitsAt
  apply List.countP_mono_left
  rintro ⟨requestId, phase⟩ - hruns
  have hkey : ∀ now, runtimeBudgetPeriodMatches budget.policy now time = true →
      runtimeBudgetReservationKey budget.policy now = runtimeBudgetReservationKey budget.policy time :=
    fun now hperiod => runtimeBudgetReservationKey_of_period ((runtimeBudgetPeriodMatches_iff _ _ _).mp hperiod)
  cases phase with
  | read now current => cases hruns
  | overLimit now => cases hruns
  | admitted now => simpa using hkey now hruns
  | running now leaseId => simpa using hkey now hruns
  | recorded now leaseId => cases hruns

theorem WithinBudget.ledgerValue_eq (h : WithinBudget budget s) (hmax : budget.limit < i64Max) (now : DateTime) :
    budgetLedgerValue budget.policy s.ledger now = (countedEvents budget.policy s.ledger now).length := by
  have hbound := h.bound now
  rw [budgetLedgerValue_eq budget.requests h.reflects]
  exact wrap_of_bounds (by unfold i64Min; omega) (by omega)

theorem value_adjust_up {counters : CounterMap String} {key : String} {count : Nat}
    (hcount : (count : Int) ≤ value counters key) (hroom : (count : Int) + 1 ≤ i64Max) :
    (count : Int) + 1 ≤ value (adjust counters key 1).1 key := by
  rw [value_adjust_self, adjust_snd]
  unfold saturatingAdd i64Min
  omega

theorem value_adjust_down {counters : CounterMap String} {key : String} {count : Int}
    (hcount : count ≤ value counters key) (hroom : count ≤ i64Max) :
    count - 1 ≤ value (adjust counters key (-1)).1 key := by
  rw [value_adjust_self, adjust_snd]
  unfold i64Max at hroom
  unfold saturatingAdd i64Min i64Max
  omega

theorem WithinBudget.units_le (h : WithinBudget budget s) (key : String) : (s.unitsAt budget key : Int) ≤ i64Max := by
  have hfits := h.fits
  have hle : s.unitsAt budget key ≤ s.requests.length := List.countP_le_length
  omega

theorem unitsAt_lt_of_read (budget : RequestBudget) {requestId : String} {now : DateTime} {current : Int}
    (hmem : (requestId, BudgetPhase.read now current) ∈ s.requests) (key : String) :
    s.unitsAt budget key + 1 ≤ s.requests.length := by
  have hcount := countP_moved (List.perm_cons_erase hmem) (holdsUnit budget key) []
  have hle : (s.requests.erase (requestId, BudgetPhase.read now current)).countP (holdsUnit budget key) ≤ _ :=
    List.countP_le_length
  have hlength := List.length_erase_of_mem hmem
  have hpos := List.length_pos_of_mem hmem
  simp only [List.nil_append, List.countP_nil, countP_one, holdsUnit_read, Bool.toNat_false] at hcount
  unfold BudgetRuntime.unitsAt
  omega

/-- The ledger value read is still the value of the ledger when the counter is raised, and the usage event falls into
the period of the admission. -/
def Prompt (budget : RequestBudget) (s : BudgetRuntime) : BudgetAction → Prop
  | .increment _ now current => current = budgetLedgerValue budget.policy s.ledger now
  | .recordUsage _ now _ event => runtimeBudgetPeriodMatches budget.policy event.occurredAt now = true
  | _ => True

theorem WithinBudget.step_read (h : WithinBudget budget s) {requestId : String} {now : DateTime}
    (hstep : budgetStep budget s (.read requestId now) = some next) : WithinBudget budget next := by
  simp only [budgetStep] at hstep
  split at hstep
  · cases hstep
  rename_i hroom
  cases hstep
  refine ⟨h.reflects, ?_, fun key => ?_, fun time => ?_⟩
  · simp only [List.length_cons]
    omega
  · unfold BudgetRuntime.unitsAt
    rw [List.countP_cons_of_neg (by simp)]
    exact h.units key
  · unfold BudgetRuntime.runningIn
    rw [List.countP_cons_of_neg (by simp)]
    exact h.bound time

theorem WithinBudget.units_up (h : WithinBudget budget s) {requestId : String} {now : DateTime} {current : Int}
    (hmem : (requestId, BudgetPhase.read now current) ∈ s.requests) (key : String) :
    (s.unitsAt budget key : Int) + (decide (runtimeBudgetReservationKey budget.policy now = key)).toNat ≤
      (s.store.adjustRuntimePolicyCounter (runtimeBudgetReservationKey budget.policy now) 1).1.runtimePolicyCounter
        key := by
  have hroom : (s.unitsAt budget key : Int) + 1 ≤ i64Max := by
    have hlt := unitsAt_lt_of_read budget hmem key
    have hfits := h.fits
    omega
  by_cases hkey : runtimeBudgetReservationKey budget.policy now = key
  · subst hkey
    rw [decide_eq_true rfl]
    exact value_adjust_up (h.units _) hroom
  · rw [decide_eq_false hkey, Bool.toNat_false, Nat.cast_zero, add_zero]
    refine (h.units key).trans (le_of_eq ?_)
    exact (value_adjust_ne _ _ (Ne.symm hkey)).symm

theorem WithinBudget.units_down (h : WithinBudget budget s) (now : DateTime) (key : String) :
    (s.unitsAt budget key : Int) - (decide (runtimeBudgetReservationKey budget.policy now = key)).toNat ≤
      (s.store.adjustRuntimePolicyCounter
        (runtimeBudgetReservationKey budget.policy now) (-1)).1.runtimePolicyCounter key := by
  by_cases hkey : runtimeBudgetReservationKey budget.policy now = key
  · subst hkey
    rw [decide_eq_true rfl]
    exact value_adjust_down (h.units _) (h.units_le _)
  · rw [decide_eq_false hkey, Bool.toNat_false, Nat.cast_zero, sub_zero]
    refine (h.units key).trans (le_of_eq ?_)
    exact (value_adjust_ne _ _ (Ne.symm hkey)).symm

/-- A request that the fresh ledger value and the counter let in finds room for itself in its period. -/
theorem WithinBudget.room (hmax : budget.limit < i64Max) (h : WithinBudget budget s) {now time : DateTime}
    (hperiod : runtimeBudgetPeriodMatches budget.policy now time = true)
    (hfits : ¬ budget.limit < saturatingAdd (budgetLedgerValue budget.policy s.ledger now)
      (s.store.adjustRuntimePolicyCounter (runtimeBudgetReservationKey budget.policy now) 1).2) :
    ((countedEvents budget.policy s.ledger time).length : Int) + s.runningIn budget time + 1 ≤ budget.limit := by
  have hsame := (runtimeBudgetPeriodMatches_iff _ _ _).mp hperiod
  have hunits := h.units (runtimeBudgetReservationKey budget.policy time)
  have hrunning := runningIn_le_unitsAt budget s time
  rw [h.ledgerValue_eq hmax, runtimeBudgetReservationKey_of_period hsame, countedEvents_of_period hsame,
    RuntimePolicyStore.adjust_result, adjust_snd] at hfits
  unfold RuntimePolicyStore.runtimePolicyCounter at hunits
  unfold saturatingAdd i64Min at hfits
  omega

theorem WithinBudget.step_increment (hmax : budget.limit < i64Max) (h : WithinBudget budget s) {requestId : String}
    {now : DateTime} {current : Int} (hcurrent : current = budgetLedgerValue budget.policy s.ledger now)
    (hstep : budgetStep budget s (.increment requestId now current) = some next) : WithinBudget budget next := by
  simp only [budgetStep] at hstep
  split at hstep
  · obtain ⟨others, hcalls, rfl⟩ := moved_cases hstep
    refine h.move hcalls (by simp) h.reflects (fun key => ?_) (fun time => ?_)
    · simpa [countP_one] using h.units key
    · simpa [countP_one] using h.bound time
  split at hstep
  · obtain ⟨others, hcalls, rfl⟩ := moved_cases hstep
    refine h.move hcalls (by simp) h.reflects (fun key => ?_) (fun time => ?_)
    · simpa only [countP_one, holdsUnit_overLimit, holdsUnit_read, Bool.toNat_false, Nat.cast_zero, sub_zero]
        using h.units_up (mem_of_moved hcalls) key
    · simpa [countP_one] using h.bound time
  · rename_i hfits
    obtain ⟨others, hcalls, rfl⟩ := moved_cases hstep
    refine h.move hcalls (by simp) h.reflects (fun key => ?_) (fun time => ?_)
    · simpa only [countP_one, holdsUnit_admitted, holdsUnit_read, Bool.toNat_false, Nat.cast_zero, sub_zero]
        using h.units_up (mem_of_moved hcalls) key
    · rw [hcurrent] at hfits
      simp only [countP_one, runsIn_admitted, runsIn_read, Bool.toNat_false, Nat.cast_zero, sub_zero]
      cases hperiod : runtimeBudgetPeriodMatches budget.policy now time with
      | true => exact h.room hmax hperiod hfits
      | false => simpa using h.bound time

theorem WithinBudget.step_compensate (h : WithinBudget budget s) {requestId : String} {now : DateTime}
    (hstep : budgetStep budget s (.compensate requestId now) = some next) : WithinBudget budget next := by
  obtain ⟨others, hcalls, rfl⟩ := moved_cases hstep
  refine h.move hcalls (by simp) h.reflects (fun key => ?_) (fun time => ?_)
  · simpa only [countP_one, holdsUnit_overLimit, List.countP_nil, Nat.cast_zero, add_zero] using h.units_down now key
  · simpa [countP_one] using h.bound time

theorem WithinBudget.step_recordLease (h : WithinBudget budget s) {requestId leaseId : String} {now : DateTime}
    (hstep : budgetStep budget s (.recordLease requestId now leaseId) = some next) : WithinBudget budget next := by
  obtain ⟨others, hcalls, rfl⟩ := moved_cases hstep
  refine h.move hcalls (by simp) h.reflects (fun key => ?_) (fun time => ?_)
  · simp only [countP_one, holdsUnit_admitted, holdsUnit_running, add_sub_cancel_right]
    exact h.units key
  · simpa only [countP_one, runsIn_admitted, runsIn_running, add_sub_cancel_right] using h.bound time

theorem WithinBudget.step_release (h : WithinBudget budget s) {requestId leaseId : String} {now : DateTime}
    (hstep : budgetStep budget s (.release requestId now leaseId) = some next) : WithinBudget budget next := by
  obtain ⟨others, hcalls, rfl⟩ := moved_cases hstep
  refine h.move hcalls (by simp) h.reflects (fun key => ?_) (fun time => ?_)
  · simp only [countP_one, holdsUnit_recorded, List.countP_nil, Nat.cast_zero, add_zero]
    have hunits := h.units key
    have hdown := h.units_down now key
    simp only [releaseRuntimeBudgetReservations, List.foldl_cons, List.foldl_nil,
      RuntimePolicyStore.releaseRuntimeBudgetLease]
    cases s.store.runtimeBudgetLeases.lookup leaseId with
    | none =>
      simp only
      omega
    | some lease =>
      by_cases hstatus : lease.status ≠ .reserved
      · simp only [if_pos hstatus]
        omega
      · simp only [if_neg hstatus]
        exact hdown
  · simpa [countP_one] using h.bound time

theorem WithinBudget.step_recordUsage (h : WithinBudget budget s) {requestId leaseId : String} {now : DateTime}
    {event : UsageEventRecord} (hperiod : runtimeBudgetPeriodMatches budget.policy event.occurredAt now = true)
    (hstep : budgetStep budget s (.recordUsage requestId now leaseId event) = some next) :
    WithinBudget budget next := by
  obtain ⟨others, hcalls, rfl⟩ := moved_cases hstep
  refine h.move hcalls (by simp) (recordUsageEvent_reflects h.reflects event) (fun key => ?_) (fun time => ?_)
  · simpa only [countP_one, holdsUnit_running, holdsUnit_recorded, add_sub_cancel_right] using h.units key
  · have hrecord := countedEvents_record budget.policy h.reflects event time
    have hbound := h.bound time
    simp only [(runtimeBudgetPeriodMatches_iff _ _ _).mp hperiod, ← runtimeBudgetPeriodMatches_iff] at hrecord
    simp only [countP_one, runsIn_running, runsIn_recorded, Bool.toNat_false, Nat.cast_zero, add_zero]
    cases hsame : runtimeBudgetPeriodMatches budget.policy now time with
    | true =>
      simp only [hsame, if_true] at hrecord
      simp only [Bool.toNat_true]
      omega
    | false =>
      simp only [hsame, Bool.false_eq_true, if_false] at hrecord
      simp only [Bool.toNat_false]
      omega

theorem WithinBudget.step (hmax : budget.limit < i64Max) {action : BudgetAction} (h : WithinBudget budget s)
    (hprompt : Prompt budget s action) (hstep : budgetStep budget s action = some next) :
    WithinBudget budget next := by
  cases action with
  | read requestId now => exact h.step_read hstep
  | increment requestId now current => exact h.step_increment hmax hprompt hstep
  | compensate requestId now => exact h.step_compensate hstep
  | recordLease requestId now leaseId => exact h.step_recordLease hstep
  | recordUsage requestId now leaseId event => exact h.step_recordUsage hprompt hstep
  | release requestId now leaseId => exact h.step_release hstep

theorem WithinBudget.initial (budget : RequestBudget) : WithinBudget budget .empty := by
  refine ⟨⟨by simp [BudgetRuntime.empty, UsageStore.empty], by simp [BudgetRuntime.empty, UsageStore.empty]⟩, ?_,
    fun key => ?_, fun time => ?_⟩
  · simp [BudgetRuntime.empty, i64Max]
  · exact le_refl _
  · have hpos := budget.positive
    simp only [BudgetRuntime.empty, UsageStore.empty, countedEvents, BudgetRuntime.runningIn, List.filter_nil,
      List.length_nil, List.countP_nil]
    omega

/-- Over every run in which no request acts on a stale ledger value and every usage event falls into the period of
its admission, the events of a period and the requests running in it stay within the limit. -/
theorem requestBudget_within (hmax : budget.limit < i64Max) {actions : List BudgetAction} {final : BudgetRuntime}
    (hprompt : Meets (budgetStep budget) (Prompt budget) .empty actions)
    (hrun : run (budgetStep budget) .empty actions = some final) (time : DateTime) :
    ((countedEvents budget.policy final.ledger time).length : Int) + final.runningIn budget time ≤ budget.limit := by
  have hwithin : WithinBudget budget final :=
    run_invariant (fun _ _ _ hs hp hn => WithinBudget.step hmax hs hp hn) (WithinBudget.initial budget) hprompt hrun
  exact hwithin.bound time

/-- The steps of a request are those of the source: once the ledger value is read, the addition is followed by the
lease or by the subtraction. -/
theorem reserveRuntimeRequestBudget_run (input : PreflightInput) {current : Int} (leaseId : String)
    (havailable : s.store.runtimePolicyHotStateAvailable = true)
    (hbelow : runtimeBudgetExceeded budget.policy current budget.limit = false)
    (hmem : (input.actor.requestId, BudgetPhase.read input.now current) ∈ s.requests) :
    match reserveRuntimeRequestBudget input budget.policy current budget.limit leaseId s.store with
    | (.ok _, store) => run (budgetStep budget) s [.increment input.actor.requestId input.now current,
        .recordLease input.actor.requestId input.now leaseId] =
          some ⟨s.ledger, store, (input.actor.requestId, .running input.now leaseId) ::
            s.requests.erase (input.actor.requestId, .read input.now current)⟩
    | (.error _, store) => run (budgetStep budget) s [.increment input.actor.requestId input.now current,
        .compensate input.actor.requestId input.now] =
          some ⟨s.ledger, store, s.requests.erase (input.actor.requestId, .read input.now current)⟩ := by
  unfold reserveRuntimeRequestBudget
  simp only [havailable, Bool.not_true, Bool.false_eq_true, if_false]
  by_cases hover : budget.limit < saturatingAdd current
      (s.store.adjustRuntimePolicyCounter (runtimeBudgetReservationKey budget.policy input.now) 1).2
  · simp only [if_pos hover]
    simp only [run, budgetStep, hbelow, if_pos hover, BudgetRuntime.move, resume_of_mem hmem, Bool.false_eq_true,
      if_false, Option.map_some, Option.bind_some, List.singleton_append, resume_of_mem List.mem_cons_self,
      List.nil_append, List.erase_cons_head]
  · simp only [if_neg hover]
    simp only [run, budgetStep, hbelow, if_neg hover, BudgetRuntime.move, resume_of_mem hmem, Bool.false_eq_true,
      if_false, Option.map_some, Option.bind_some, List.singleton_append, resume_of_mem List.mem_cons_self,
      List.erase_cons_head, requestBudgetLease]

end Steps

def oneRequestBudget : RequestBudget :=
  ⟨requestBudget "bud_a" 1, 1, by decide, rfl, rfl, by decide⟩

def staleRun : List BudgetAction :=
  [.read "req_1" ⟨0⟩, .read "req_2" ⟨0⟩, .increment "req_2" ⟨0⟩ 0, .recordLease "req_2" ⟨0⟩ "bls_2",
    .recordUsage "req_2" ⟨0⟩ "bls_2" (sampleEvent "use_2" "req_2" 0), .release "req_2" ⟨0⟩ "bls_2",
    .increment "req_1" ⟨0⟩ 0]

theorem requestBudget_exceeded :
    ∃ final, run (budgetStep oneRequestBudget) .empty staleRun = some final ∧
      (countedEvents oneRequestBudget.policy final.ledger ⟨0⟩).length = 1 ∧
      final.runningIn oneRequestBudget ⟨0⟩ = 1 ∧
      ¬ ((countedEvents oneRequestBudget.policy final.ledger ⟨0⟩).length : Int) +
        final.runningIn oneRequestBudget ⟨0⟩ ≤ oneRequestBudget.limit := by
  obtain ⟨final, hrun⟩ : ∃ final, run (budgetStep oneRequestBudget) .empty staleRun = some final := ⟨_, rfl⟩
  have hcounted : (countedEvents oneRequestBudget.policy final.ledger ⟨0⟩).length = 1 := by
    cases hrun
    decide
  have hrunning : final.runningIn oneRequestBudget ⟨0⟩ = 1 := by
    cases hrun
    decide
  refine ⟨final, hrun, hcounted, hrunning, ?_⟩
  rw [hcounted, hrunning]
  decide

def promptRun : List BudgetAction :=
  [.read "req_2" ⟨0⟩, .increment "req_2" ⟨0⟩ 0, .recordLease "req_2" ⟨0⟩ "bls_2",
    .recordUsage "req_2" ⟨0⟩ "bls_2" (sampleEvent "use_2" "req_2" 0), .release "req_2" ⟨0⟩ "bls_2",
    .read "req_1" ⟨0⟩, .increment "req_1" ⟨0⟩ 1]

theorem requestBudget_within_prompt :
    ∃ final, run (budgetStep oneRequestBudget) .empty promptRun = some final ∧
      ((countedEvents oneRequestBudget.policy final.ledger ⟨0⟩).length : Int) +
        final.runningIn oneRequestBudget ⟨0⟩ ≤ oneRequestBudget.limit := by
  obtain ⟨final, hrun⟩ : ∃ final, run (budgetStep oneRequestBudget) .empty promptRun = some final := ⟨_, rfl⟩
  have hprompt : Meets (budgetStep oneRequestBudget) (Prompt oneRequestBudget) .empty promptRun := by
    refine .cons rfl trivial (.cons rfl ?_ (.cons rfl trivial (.cons rfl ?_ (.cons rfl trivial
      (.cons rfl trivial (.cons rfl ?_ trivial))))))
    · show (0 : Int) = budgetLedgerValue _ _ _
      decide
    · show runtimeBudgetPeriodMatches _ _ _ = true
      decide
    · show (1 : Int) = budgetLedgerValue _ _ _
      decide
  exact ⟨final, hrun, requestBudget_within (by decide) hprompt hrun ⟨0⟩⟩

end Starweaver.Gateway
