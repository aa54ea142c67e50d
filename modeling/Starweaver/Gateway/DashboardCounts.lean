import Starweaver.Gateway.UsageDashboards

/-! The dashboards show what was recorded: every event in scope is counted once in each view. -/

namespace Starweaver.Gateway

open Library Library.AssocMap Library.Calendar Library.Grouping Library.MachineInt Library.SortBy

/-- The counters that the dashboards show. -/
def UsageCounters.measures (counters : UsageCounters) : UsageMeasures where
  requestCount := counters.requestCount
  successCount := counters.successCount
  errorCount := counters.errorCount
  inputTokens := counters.inputTokens
  outputTokens := counters.outputTokens
  reasoningTokens := counters.reasoningTokens
  mediaUnits := counters.mediaUnits
  estimatedCostMicros := counters.estimatedCostMicros
  usageMissingCount := counters.usageMissingCount
  usageEstimatedCount := counters.usageEstimatedCount

/-- What some events come to, in 64-bit arithmetic. -/
def measuresOf (events : List UsageEventRecord) : UsageMeasures := ((countersOf events).map wrap).measures

theorem foldl_accumulate (buckets : List LedgerBucketRecord) :
    (buckets.foldl accumulateUsageBucket .default).toUsageMeasures = ((countersIn buckets).map wrap).measures := by
  induction buckets using List.reverseRecOn with
  | nil => rfl
  | append_singleton buckets bucket ih =>
    have hcounters : countersIn (buckets ++ [bucket]) = (countersIn buckets).add bucket.counters := by
      simp [countersIn, UsageCounters.add_def]
    rw [List.foldl_append, List.foldl_cons, List.foldl_nil, hcounters]
    generalize buckets.foldl accumulateUsageBucket .default = rollup at ih ⊢
    obtain ⟨measures, p50, p95, p99, ttft, latest⟩ := rollup
    dsimp only at ih
    subst ih
    simp only [accumulateUsageBucket, UsageCounters.measures, UsageCounters.map, UsageCounters.add, wrap_wrap_add]

section Ledger

variable {events : List UsageEventRecord} {buckets : LedgerBuckets} {scope : DashboardScopeInput} {kind : BucketKind}

theorem bucketMatches_eq {bucket : LedgerBucketRecord} {event : UsageEventRecord}
    (h : bucket.toUsageDimensions = event.toUsageDimensions) (scope : DashboardScopeInput) :
    dashboardBucketMatchesScope bucket scope = dashboardUsageEventMatchesScope event scope := by
  have hdimensions (dimensions : UsageDimensions) (hsame : dimensions = event.toUsageDimensions) :
      dashboardUsageEventMatchesScope { event with toUsageDimensions := dimensions } scope =
        dashboardUsageEventMatchesScope event scope := by
    rw [hsame]
  exact hdimensions _ h

/-- The bucket under the key of an event is one for its dimensions and, but for the event buckets, its start. -/
theorem LedgerReflects.bucket_of_key (h : LedgerReflects events buckets) (hsafe : ∀ event ∈ events, event.Safe)
    {event : UsageEventRecord} (hevent : event ∈ events) {bucket : LedgerBucketRecord}
    (hlookup : buckets.lookup (event.bucketKey kind) = some bucket) :
    bucket.bucketKind = kind ∧ bucket.toUsageDimensions = event.toUsageDimensions ∧
      (kind ≠ .event → bucket.bucketStart = usageBucketStart kind event.occurredAt) := by
  obtain ⟨first, hfirst, hkey, hcounted, -⟩ := h.bucket hlookup
  obtain rfl : bucket.bucketKind = kind := bucketKey_kind hkey
  have hdims := usageBucketKey_injective (hsafe first hfirst).dimensions (hsafe event hevent).dimensions hkey
  refine ⟨rfl, hcounted.1.trans hdims, fun hkind => hcounted.2.trans ?_⟩
  obtain ⟨-, htime⟩ := usageBucketKey_suffix hkey
  obtain ⟨seconds, hs⟩ := usageBucketStart_wholeSecond (hsafe first hfirst) hkind
  obtain ⟨seconds', hs'⟩ := usageBucketStart_wholeSecond (hsafe event hevent) hkind
  rw [hs, hs', timestamp_mul, timestamp_mul] at htime
  rw [hs, hs', htime]

def inScope (scope : DashboardScopeInput) (events : List UsageEventRecord) : List UsageEventRecord :=
  events.filter fun event => dashboardUsageEventMatchesScope event scope

/-- The buckets that a view reads. -/
def readBuckets (buckets : LedgerBuckets) (scope : DashboardScopeInput) (kind : BucketKind) : List LedgerBucketRecord :=
  bucketsInScope ((buckets.entries.map Sigma.snd).filter fun bucket => bucket.tenantId == scope.tenantId) scope kind

theorem readBuckets_eq (buckets : LedgerBuckets) (scope : DashboardScopeInput) (kind : BucketKind) :
    readBuckets buckets scope kind = (buckets.entries.map Sigma.snd).filter fun bucket =>
      bucket.bucketKind == kind && dashboardBucketMatchesScope bucket scope := by
  unfold readBuckets bucketsInScope
  rw [List.filter_filter, List.filter_filter]
  refine List.filter_congr fun bucket _ => ?_
  have htenant : dashboardBucketMatchesScope bucket scope = true → (bucket.tenantId == scope.tenantId) = true := by
    intro hmatch
    exact (Bool.and_eq_true_iff.mp hmatch).1
  cases hscope : dashboardBucketMatchesScope bucket scope with
  | false => simp
  | true => simp [htenant hscope]

/-- The buckets that pass a test count the events in scope that pass it. -/
theorem LedgerReflects.measures_eq (h : LedgerReflects events buckets) (hsafe : ∀ event ∈ events, event.Safe)
    (scope : DashboardScopeInput) {passes : LedgerBucketRecord → Bool} {counts : UsageEventRecord → Bool}
    (hagree : ∀ event ∈ events, ∀ bucket, buckets.lookup (event.bucketKey kind) = some bucket →
      passes bucket = counts event) :
    ((countersIn ((readBuckets buckets scope kind).filter passes)).map wrap).measures =
      measuresOf ((inScope scope events).filter counts) := by
  have hsum := h.wrap_sum kind (fun bucket => passes bucket && (bucket.bucketKind == kind &&
    dashboardBucketMatchesScope bucket scope)) (fun bucket hpass => by simp at hpass; exact hpass.2.1)
  rw [readBuckets_eq, List.filter_filter, hsum, measuresOf]
  refine congrArg (fun kept => ((countersOf kept).map wrap).measures) ?_
  rw [inScope, List.filter_filter]
  refine List.filter_congr fun event hevent => ?_
  obtain ⟨bucket, hlookup, -⟩ := h.exists_bucket hevent kind
  obtain ⟨hkind, hdims, -⟩ := h.bucket_of_key hsafe hevent hlookup
  rw [hlookup, Option.any_some, hagree event hevent bucket hlookup, hkind, bucketMatches_eq hdims, beq_self_eq_true,
    Bool.true_and]

theorem LedgerReflects.bucket_of_event (h : LedgerReflects events buckets) (hsafe : ∀ event ∈ events, event.Safe)
    {event : UsageEventRecord} (hevent : event ∈ inScope scope events) (kind : BucketKind) :
    ∃ bucket ∈ readBuckets buckets scope kind, bucket.toUsageDimensions = event.toUsageDimensions ∧
      (kind ≠ .event → bucket.bucketStart = usageBucketStart kind event.occurredAt) := by
  obtain ⟨hmem, hscope⟩ := List.mem_filter.mp hevent
  obtain ⟨bucket, hlookup, hkind⟩ := h.exists_bucket hmem kind
  obtain ⟨-, hdims, hstart⟩ := h.bucket_of_key hsafe hmem hlookup
  refine ⟨bucket, ?_, hdims, hstart⟩
  rw [readBuckets_eq, List.mem_filter]
  refine ⟨List.mem_map.mpr ⟨_, AList.mem_lookup_iff.mp hlookup, rfl⟩, ?_⟩
  rw [hkind, bucketMatches_eq hdims, hscope, beq_self_eq_true, Bool.true_and]

theorem LedgerReflects.event_of_bucket (h : LedgerReflects events buckets) {bucket : LedgerBucketRecord}
    (hbucket : bucket ∈ readBuckets buckets scope kind) :
    ∃ event ∈ inScope scope events, bucket.toUsageDimensions = event.toUsageDimensions ∧
      bucket.bucketStart = usageBucketStart kind event.occurredAt := by
  rw [readBuckets_eq, List.mem_filter] at hbucket
  obtain ⟨hmem, hpass⟩ := hbucket
  obtain ⟨entry, hentry, rfl⟩ := List.mem_map.mp hmem
  obtain ⟨first, hfirst, -, hcounted, -⟩ := h.bucket (AList.mem_lookup_iff.mpr hentry)
  simp only [Bool.and_eq_true, beq_iff_eq] at hpass
  refine ⟨first, List.mem_filter.mpr ⟨hfirst, ?_⟩, hcounted.1, hpass.1 ▸ hcounted.2⟩
  rw [← bucketMatches_eq hcounted.1]
  exact hpass.2

end Ledger

section Views

variable {events : List UsageEventRecord} {buckets : LedgerBuckets} {scope : DashboardScopeInput} {kind : BucketKind}
  {dimension : UsageBreakdownDimension}

theorem gathered_isSome {ι ρ : Type} {start : ι → ρ} {add : ρ → ι → ρ} {items : List ι} {value : ρ}
    (h : gathered start add items = some value) :
    ∃ item ∈ items, value = items.foldl add (start item) := by
  cases items with
  | nil => cases h
  | cons item items =>
    rw [gathered_cons] at h
    exact ⟨item, List.mem_cons_self, (Option.some.inj h).symm⟩

def eventsAt (kind : BucketKind) (start : DateTime) (events : List UsageEventRecord) : List UsageEventRecord :=
  events.filter fun event => decide (some (usageBucketStart kind event.occurredAt) = some start)

def eventsOf (dimension : UsageBreakdownDimension) (group : String × String) (events : List UsageEventRecord) :
    List UsageEventRecord :=
  events.filter fun event => decide (usageBreakdownGroup event.toUsageDimensions dimension = some group)

instance : Std.TransCmp compareStarts :=
  inferInstanceAs (Std.TransCmp (compareOn fun entry : (_ : DateTime) × DashboardUsageRollup => entry.1.nanos))

/-- The points before they are put in order. -/
def timeseriesGroups (buckets : List LedgerBucketRecord) : AList (fun _ : DateTime => DashboardUsageRollup) :=
  group (fun bucket : LedgerBucketRecord => some bucket.bucketStart) (fun _ => .default) accumulateUsageBucket buckets

def timeseriesPoints (buckets : LedgerBuckets) (scope : DashboardScopeInput) (kind : BucketKind) :
    List (DateTime × DashboardUsageRollup) :=
  usageTimeseriesPointsFromBuckets
    ((buckets.entries.map Sigma.snd).filter fun bucket => bucket.tenantId == scope.tenantId) scope kind

theorem mem_timeseriesPoints {start : DateTime} {rollup : DashboardUsageRollup} :
    (start, rollup) ∈ timeseriesPoints buckets scope kind ↔
      (timeseriesGroups (readBuckets buckets scope kind)).lookup start = some rollup := by
  unfold timeseriesPoints usageTimeseriesPointsFromBuckets
  simp only [List.mem_map, mem_sortBy, Prod.mk.injEq]
  constructor
  · rintro ⟨entry, hentry, rfl, rfl⟩
    exact AList.mem_lookup_iff.mpr hentry
  · intro hlookup
    exact ⟨⟨start, rollup⟩, AList.mem_lookup_iff.mp hlookup, rfl, rfl⟩

theorem timeseriesPoints_sorted : ((timeseriesPoints buckets scope kind).map (·.1)).Pairwise (· < ·) := by
  unfold timeseriesPoints usageTimeseriesPointsFromBuckets
  rw [List.map_map, List.pairwise_map]
  set groups := group (fun bucket : LedgerBucketRecord => some bucket.bucketStart) (fun _ => .default)
    accumulateUsageBucket _ with hgroups
  have hkeys : (sortBy compareStarts groups.entries).Pairwise fun left right => left.1 ≠ right.1 := by
    have hnodup : groups.entries.Pairwise fun left right => left.1 ≠ right.1 :=
      List.pairwise_map.mp groups.nodupKeys
    exact hnodup.perm (sortBy_perm compareStarts groups.entries).symm fun h => h.symm
  refine (hkeys.and (pairwise_sortBy groups.entries)).imp fun {left right} h => ?_
  have hle : left.1.nanos ≤ right.1.nanos := not_lt.mp fun hlt => h.2 (compare_gt_iff_gt.mpr hlt)
  have hne : left.1.nanos ≠ right.1.nanos := fun heq => h.1 (by cases hleft : left.1; cases hright : right.1; simp_all)
  exact lt_of_le_of_ne hle hne

theorem LedgerReflects.point_measures (h : LedgerReflects events buckets) (hsafe : ∀ event ∈ events, event.Safe)
    (hkind : kind ≠ .event) {start : DateTime} {rollup : DashboardUsageRollup}
    (hpoint : (start, rollup) ∈ timeseriesPoints buckets scope kind) :
    rollup.toUsageMeasures = measuresOf (eventsAt kind start (inScope scope events)) := by
  rw [mem_timeseriesPoints, timeseriesGroups, lookup_group] at hpoint
  obtain ⟨bucket, -, rfl⟩ := gathered_isSome hpoint
  rw [foldl_accumulate]
  refine h.measures_eq hsafe scope fun event hevent bucket hlookup => ?_
  rw [(h.bucket_of_key hsafe hevent hlookup).2.2 hkind]

theorem LedgerReflects.point_exists (h : LedgerReflects events buckets) (hsafe : ∀ event ∈ events, event.Safe)
    (hkind : kind ≠ .event) {start : DateTime} :
    (∃ rollup, (start, rollup) ∈ timeseriesPoints buckets scope kind) ↔
      ∃ event ∈ inScope scope events, usageBucketStart kind event.occurredAt = start := by
  simp only [mem_timeseriesPoints, ← Option.isSome_iff_exists, timeseriesGroups]
  rw [lookup_group_isSome]
  constructor
  · rintro ⟨bucket, hbucket, hstart⟩
    obtain ⟨event, hevent, -, hown⟩ := h.event_of_bucket hbucket
    exact ⟨event, hevent, hown.symm.trans (Option.some.inj hstart)⟩
  · rintro ⟨event, hevent, rfl⟩
    obtain ⟨bucket, hbucket, -, hstart⟩ := h.bucket_of_event hsafe hevent kind
    exact ⟨bucket, hbucket, congrArg some (hstart hkind)⟩

theorem LedgerReflects.points_total (h : LedgerReflects events buckets) (hsafe : ∀ event ∈ events, event.Safe)
    (hkind : kind ≠ .event) :
    ((timeseriesPoints buckets scope kind).map fun point =>
      countersOf (eventsAt kind point.1 (inScope scope events))).sum = countersOf (inScope scope events) := by
  have hsum := sum_by_keyOf (fun event : UsageEventRecord => some (usageBucketStart kind event.occurredAt))
    UsageEventRecord.counters (inScope scope events) (timeseriesGroups (readBuckets buckets scope kind))
  have hall : (inScope scope events).filter (fun event => (some (usageBucketStart kind event.occurredAt)).any fun key =>
      ((timeseriesGroups (readBuckets buckets scope kind)).lookup key).isSome) = inScope scope events := by
    refine List.filter_eq_self.mpr fun event hevent => ?_
    obtain ⟨rollup, hpoint⟩ := (h.point_exists hsafe hkind).mpr ⟨event, hevent, rfl⟩
    rw [Option.any_some, mem_timeseriesPoints.mp hpoint]
    rfl
  rw [hall] at hsum
  refine Eq.trans ?_ hsum
  unfold timeseriesPoints usageTimeseriesPointsFromBuckets
  rw [List.map_map]
  exact ((sortBy_perm compareStarts _).map _).sum_eq

/-- The key of a row in the map of the groups. -/
def groupKey (group : String × String) : String := s!"{group.1}:{group.2}"

theorem groupKey_injective {record other : UsageDimensions} {group group' : String × String}
    (h : usageBreakdownGroup record dimension = some group) (h' : usageBreakdownGroup other dimension = some group')
    (hkey : groupKey group = groupKey group') : group = group' := by
  have hchars : group.1.toList ++ ':' :: group.2.toList = group'.1.toList ++ ':' :: group'.2.toList := by
    have htext := congrArg String.toList hkey
    simpa [groupKey, toString] using htext
  have hsame : group.1 = group'.1 → group = group' := by
    intro hkind
    rw [hkind] at hchars
    have hid := List.cons.inj (List.append_cancel_left hchars)
    exact Prod.ext hkind (String.toList_injective hid.2)
  cases dimension with
  | project =>
    obtain ⟨_, -, rfl⟩ := Option.map_eq_some_iff.mp h
    obtain ⟨_, -, rfl⟩ := Option.map_eq_some_iff.mp h'
    exact hsame rfl
  | projectMember =>
    obtain ⟨_, -, rfl⟩ := Option.map_eq_some_iff.mp h
    obtain ⟨_, -, rfl⟩ := Option.map_eq_some_iff.mp h'
    exact hsame rfl
  | providerEndpoint =>
    obtain ⟨_, -, rfl⟩ := Option.map_eq_some_iff.mp h
    obtain ⟨_, -, rfl⟩ := Option.map_eq_some_iff.mp h'
    exact hsame rfl
  | model =>
    have hkinds {record : UsageDimensions} {group : String × String}
        (h : usageBreakdownGroup record .model = some group) :
        group.1 = "model_alias" ∨ group.1 = "model_target" := by
      rcases Option.or_eq_some_iff.mp h with halias | ⟨-, htarget⟩
      · obtain ⟨_, -, rfl⟩ := Option.map_eq_some_iff.mp halias
        exact .inl rfl
      · obtain ⟨_, -, rfl⟩ := Option.map_eq_some_iff.mp htarget
        exact .inr rfl
    rcases hkinds h with hkind | hkind
    · rcases hkinds h' with hkind' | hkind'
      · exact hsame (hkind.trans hkind'.symm)
      · rw [hkind, hkind'] at hchars
        have hdiffer : 'a' = 't' := by simpa using congrArg (fun chars : List Char => chars.getD 6 ' ') hchars
        cases hdiffer
    · rcases hkinds h' with hkind' | hkind'
      · rw [hkind, hkind'] at hchars
        have hdiffer : 't' = 'a' := by simpa using congrArg (fun chars : List Char => chars.getD 6 ' ') hchars
        cases hdiffer
      · exact hsame (hkind.trans hkind'.symm)

def rowKey (dimension : UsageBreakdownDimension) (record : UsageDimensions) : Option String :=
  (usageBreakdownGroup record dimension).map groupKey

def openRow (dimension : UsageBreakdownDimension) (bucket : LedgerBucketRecord) : BreakdownRow :=
  let (groupKind, groupId) := (usageBreakdownGroup bucket.toUsageDimensions dimension).getD ("", "")
  ⟨groupKind, groupId, .default⟩

def addToRow (row : BreakdownRow) (bucket : LedgerBucketRecord) : BreakdownRow :=
  { row with rollup := accumulateUsageBucket row.rollup bucket }

/-- The rows before they are put in order. -/
def breakdownGroups (dimension : UsageBreakdownDimension) (buckets : List LedgerBucketRecord) :
    AList (fun _ : String => BreakdownRow) :=
  group (fun bucket : LedgerBucketRecord => rowKey dimension bucket.toUsageDimensions) (openRow dimension) addToRow
    buckets

def breakdownRows (buckets : LedgerBuckets) (scope : DashboardScopeInput) (dimension : UsageBreakdownDimension) :
    List BreakdownRow :=
  usageBreakdownRows ((buckets.entries.map Sigma.snd).filter fun bucket => bucket.tenantId == scope.tenantId) scope
    dimension

theorem mem_breakdownRows {row : BreakdownRow} : row ∈ breakdownRows buckets scope dimension ↔
    ∃ key, (breakdownGroups dimension (readBuckets buckets scope .event)).lookup key = some row := by
  have hrows : breakdownRows buckets scope dimension = sortBy compareRows
      ((breakdownGroups dimension (readBuckets buckets scope .event)).entries.map (·.2)) := rfl
  rw [hrows, mem_sortBy, List.mem_map]
  constructor
  · rintro ⟨entry, hentry, rfl⟩
    exact ⟨entry.1, AList.mem_lookup_iff.mpr hentry⟩
  · rintro ⟨key, hlookup⟩
    exact ⟨⟨key, row⟩, AList.mem_lookup_iff.mp hlookup, rfl⟩

theorem foldl_addToRow (row : BreakdownRow) (buckets : List LedgerBucketRecord) :
    buckets.foldl addToRow row = { row with rollup := buckets.foldl accumulateUsageBucket row.rollup } := by
  induction buckets generalizing row with
  | nil => rfl
  | cons bucket buckets ih => rw [List.foldl_cons, ih, List.foldl_cons, addToRow]

/-- A row stands for one group, with what the events in scope of the group come to. -/
theorem LedgerReflects.row_measures (h : LedgerReflects events buckets) (hsafe : ∀ event ∈ events, event.Safe)
    {key : String} {row : BreakdownRow}
    (hrow : (breakdownGroups dimension (readBuckets buckets scope .event)).lookup key = some row) :
    key = groupKey (row.groupKind, row.groupId) ∧
      (∃ event ∈ inScope scope events,
        usageBreakdownGroup event.toUsageDimensions dimension = some (row.groupKind, row.groupId)) ∧
      row.rollup.toUsageMeasures =
        measuresOf (eventsOf dimension (row.groupKind, row.groupId) (inScope scope events)) := by
  rw [breakdownGroups, lookup_group] at hrow
  obtain ⟨bucket, hbucket, rfl⟩ := gathered_isSome hrow
  obtain ⟨hmem, hkey⟩ := List.mem_filter.mp hbucket
  obtain ⟨own, hown, rfl⟩ := Option.map_eq_some_iff.mp (of_decide_eq_true hkey)
  obtain ⟨event, hevent, hdims, -⟩ := h.event_of_bucket hmem
  have hopened : openRow dimension bucket = ⟨own.1, own.2, .default⟩ := by rw [openRow, hown]; rfl
  rw [hopened, foldl_addToRow]
  refine ⟨rfl, ⟨event, hevent, by rw [← hdims]; exact hown⟩, ?_⟩
  rw [foldl_accumulate]
  refine h.measures_eq hsafe scope fun other hother stored hlookup => ?_
  rw [(h.bucket_of_key hsafe hother hlookup).2.1, decide_eq_decide, rowKey]
  constructor
  · intro hsame
    obtain ⟨group, hgroup, hkeys⟩ := Option.map_eq_some_iff.mp hsame
    rw [hgroup, groupKey_injective hgroup hown hkeys]
  · intro hsame
    rw [hsame]
    rfl

theorem LedgerReflects.row_exists (h : LedgerReflects events buckets) (hsafe : ∀ event ∈ events, event.Safe)
    {event : UsageEventRecord} (hevent : event ∈ inScope scope events) {group : String × String}
    (hgroup : usageBreakdownGroup event.toUsageDimensions dimension = some group) :
    ∃ row ∈ breakdownRows buckets scope dimension, (row.groupKind, row.groupId) = group := by
  obtain ⟨bucket, hbucket, hdims, -⟩ := h.bucket_of_event hsafe hevent .event
  have hkey : rowKey dimension bucket.toUsageDimensions = some (groupKey group) := by
    rw [hdims, rowKey, hgroup, Option.map_some]
  have hsome : ((breakdownGroups dimension (readBuckets buckets scope .event)).lookup (groupKey group)).isSome = true :=
    (lookup_group_isSome _ _).mpr ⟨bucket, hbucket, hkey⟩
  obtain ⟨row, hrow⟩ := Option.isSome_iff_exists.mp hsome
  obtain ⟨hnamed, ⟨other, -, hother⟩, -⟩ := h.row_measures hsafe hrow
  exact ⟨row, mem_breakdownRows.mpr ⟨_, hrow⟩, (groupKey_injective hgroup hother hnamed).symm⟩

theorem LedgerReflects.rows_apart (h : LedgerReflects events buckets) (hsafe : ∀ event ∈ events, event.Safe) :
    ((breakdownRows buckets scope dimension).map fun row => (row.groupKind, row.groupId)).Nodup := by
  set groups := breakdownGroups dimension (readBuckets buckets scope .event) with hgroups
  have hrows : (breakdownRows buckets scope dimension).Perm (groups.entries.map (·.2)) := sortBy_perm _ _
  refine (hrows.map _).nodup_iff.mpr ?_
  rw [List.map_map]
  have hkeys : (groups.entries.map fun entry => groupKey (entry.2.groupKind, entry.2.groupId)).Nodup := by
    have hnamed : groups.entries.map (fun entry => groupKey (entry.2.groupKind, entry.2.groupId)) =
        groups.entries.map (·.1) := by
      refine List.map_congr_left fun entry hentry => ?_
      exact (h.row_measures hsafe (AList.mem_lookup_iff.mpr hentry)).1.symm
    rw [hnamed]
    exact groups.nodupKeys
  have hcomposed : (groups.entries.map fun entry => groupKey (entry.2.groupKind, entry.2.groupId)) =
      (groups.entries.map fun entry => (entry.2.groupKind, entry.2.groupId)).map groupKey := by
    rw [List.map_map]
    rfl
  rw [hcomposed] at hkeys
  exact hkeys.of_map groupKey

theorem LedgerReflects.summary_measures (h : LedgerReflects events buckets) (hsafe : ∀ event ∈ events, event.Safe)
    (usageEvents : List MeasuredUsageEvent) :
    (dashboardUsageRollupFromRecords
      ((buckets.entries.map Sigma.snd).filter fun bucket => bucket.tenantId == scope.tenantId) scope
      usageEvents).toUsageMeasures = measuresOf (inScope scope events) := by
  have hrollup : (dashboardUsageRollupFromRecords
      ((buckets.entries.map Sigma.snd).filter fun bucket => bucket.tenantId == scope.tenantId) scope
      usageEvents).toUsageMeasures =
        ((readBuckets buckets scope .event).foldl accumulateUsageBucket .default).toUsageMeasures := rfl
  have hall : ((countersIn ((readBuckets buckets scope .event).filter fun _ => true)).map wrap).measures =
      measuresOf ((inScope scope events).filter fun _ => true) := h.measures_eq hsafe scope fun _ _ _ _ => rfl
  rw [hrollup, foldl_accumulate]
  simpa using hall

end Views

section Percentiles

variable {values : List Int} {percentile higher : Nat} {value other : Int}

theorem percentileI64_some (h : percentileI64 values percentile = some value) :
    (sortBy compare values)[((values.length - 1) * percentile + 99) / 100]? = some value := by
  unfold percentileI64 at h
  split at h
  · cases h
  · exact h

theorem percentileI64_mem (h : percentileI64 values percentile = some value) : value ∈ values :=
  mem_sortBy.mp (List.mem_of_getElem? (percentileI64_some h))

/-- There is a value at every rank up to the last. -/
theorem percentileI64_isSome (hvalues : values ≠ []) (hpercentile : percentile ≤ 100) :
    (percentileI64 values percentile).isSome = true := by
  have hlength : (sortBy compare values).length = values.length := (sortBy_perm compare values).length_eq
  have hpos := List.length_pos_iff.mpr hvalues
  have hrank : ((values.length - 1) * percentile + 99) / 100 < (sortBy compare values).length := by
    have hle := Nat.mul_le_mul_left (values.length - 1) hpercentile
    rw [hlength]
    omega
  rw [percentileI64, if_neg hvalues, List.getElem?_eq_getElem hrank]
  rfl

theorem percentileI64_mono (hle : percentile ≤ higher) (h : percentileI64 values percentile = some value)
    (hhigher : percentileI64 values higher = some other) : value ≤ other := by
  obtain ⟨hrank, hvalue⟩ := List.getElem?_eq_some_iff.mp (percentileI64_some h)
  obtain ⟨hrank', hother⟩ := List.getElem?_eq_some_iff.mp (percentileI64_some hhigher)
  have hmul := Nat.mul_le_mul_left (values.length - 1) hle
  rcases Nat.eq_or_lt_of_le (show ((values.length - 1) * percentile + 99) / 100 ≤
      ((values.length - 1) * higher + 99) / 100 by omega) with heq | hlt
  · rw [← hvalue, ← hother]
    simp only [heq, le_refl]
  · have hpairwise : (sortBy compare values).Pairwise fun a b => compare a b ≠ .gt := pairwise_sortBy values
    have hsorted := List.pairwise_iff_getElem.mp hpairwise _ _ hrank hrank' hlt
    rw [hvalue, hother] at hsorted
    exact not_lt.mp fun hgt => hsorted (compare_gt_iff_gt.mpr hgt)

end Percentiles

/-- Every view of a scope shows the recorded events in scope: the summary all of them, each point of a timeseries those
of its period and each row of a breakdown those of its group, with no period and no group left out or shown twice. -/
structure DashboardsShow (store : UsageStore) (scope : DashboardScopeInput) : Prop where
  summary : ∀ usageEvents, (dashboardUsageRollupFromRecords (store.ledgerBucketsForTenant scope.tenantId) scope
    usageEvents).toUsageMeasures = measuresOf (inScope scope store.usageEvents)
  starts : ∀ kind, ((usageTimeseriesPointsFromBuckets (store.ledgerBucketsForTenant scope.tenantId) scope kind).map
    (·.1)).Pairwise (· < ·)
  point_exists : ∀ kind, kind ≠ .event → ∀ start,
    (∃ rollup, (start, rollup) ∈ usageTimeseriesPointsFromBuckets (store.ledgerBucketsForTenant scope.tenantId) scope
      kind) ↔ ∃ event ∈ inScope scope store.usageEvents, usageBucketStart kind event.occurredAt = start
  points : ∀ kind, kind ≠ .event → ∀ start rollup,
    (start, rollup) ∈ usageTimeseriesPointsFromBuckets (store.ledgerBucketsForTenant scope.tenantId) scope kind →
      rollup.toUsageMeasures = measuresOf (eventsAt kind start (inScope scope store.usageEvents))
  points_total : ∀ kind, kind ≠ .event →
    ((usageTimeseriesPointsFromBuckets (store.ledgerBucketsForTenant scope.tenantId) scope kind).map fun point =>
      countersOf (eventsAt kind point.1 (inScope scope store.usageEvents))).sum =
        countersOf (inScope scope store.usageEvents)
  rows_apart : ∀ dimension, ((usageBreakdownRows (store.ledgerBucketsForTenant scope.tenantId) scope dimension).map
    fun row => (row.groupKind, row.groupId)).Nodup
  row_exists : ∀ dimension, ∀ event ∈ inScope scope store.usageEvents, ∀ group,
    usageBreakdownGroup event.toUsageDimensions dimension = some group →
      ∃ row ∈ usageBreakdownRows (store.ledgerBucketsForTenant scope.tenantId) scope dimension,
        (row.groupKind, row.groupId) = group
  rows : ∀ dimension, ∀ row ∈ usageBreakdownRows (store.ledgerBucketsForTenant scope.tenantId) scope dimension,
    row.rollup.toUsageMeasures =
      measuresOf (eventsOf dimension (row.groupKind, row.groupId) (inScope scope store.usageEvents))

theorem usageDashboards_show {records : List UsageEventRecord} (hsafe : ∀ record ∈ records, record.Safe)
    (scope : DashboardScopeInput) : DashboardsShow (UsageStore.empty.recordAll records) scope := by
  obtain ⟨haccepted, hreflects⟩ := recordAll_empty records
  have hevents : ∀ event ∈ (UsageStore.empty.recordAll records).usageEvents, event.Safe := by
    intro event hevent
    rw [haccepted] at hevent
    rcases mem_of_mem_acceptedFrom hevent with hnone | hrecord
    · cases hnone
    · exact hsafe event hrecord
  rw [← haccepted] at hreflects
  constructor
  · exact fun usageEvents => hreflects.summary_measures hevents usageEvents
  · exact fun kind => timeseriesPoints_sorted
  · exact fun kind hkind start => hreflects.point_exists hevents hkind
  · exact fun kind hkind start rollup hpoint => hreflects.point_measures hevents hkind hpoint
  · exact fun kind hkind => hreflects.points_total hevents hkind
  · exact fun dimension => hreflects.rows_apart hevents
  · exact fun dimension event hevent group hgroup => hreflects.row_exists hevents hevent hgroup
  · intro dimension row hrow
    obtain ⟨key, hlookup⟩ := mem_breakdownRows.mp hrow
    exact (hreflects.row_measures hevents hlookup).2.2

theorem usageDashboards_show_tenant :
    DashboardsShow (UsageStore.empty.recordAll
      [sampleEvent "use_1" "req_1" 0, sampleEvent "use_2" "req_2" 90000000000, sampleEvent "use_3" "req_2" 0])
      tenantScope := by
  refine usageDashboards_show ?_ tenantScope
  simp only [List.forall_mem_cons, List.not_mem_nil, IsEmpty.forall_iff, implies_true, and_true]
  exact ⟨sampleEvent_safe _ _ (by decide) (by decide), sampleEvent_safe _ _ (by decide) (by decide),
    sampleEvent_safe _ _ (by decide) (by decide)⟩

end Starweaver.Gateway
