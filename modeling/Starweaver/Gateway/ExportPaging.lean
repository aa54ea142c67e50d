import Starweaver.Library.Paging
import Starweaver.Library.SortBy
import Starweaver.Gateway.UsageLedger

namespace Starweaver.Gateway

open Library.Calendar Library.Paging Library.SortBy

structure AuditEventRecord where
  auditEventId : String
  tenantId : String
  organizationId : Option String
  projectId : Option String
  scopeKind : String
  scopeId : String
  occurredAt : DateTime
deriving DecidableEq, Repr

structure DashboardScopeInput where
  tenantId : String
  scopeKind : String
  scopeId : String
  organizationId : Option String
  projectId : Option String
  projectMemberId : Option String
deriving DecidableEq, Repr

/-- The records that an export reads; the usage events are those of the PostgreSQL table when there is one. -/
structure ExportStore where
  usageEvents : List UsageEventRecord
  postgresUsageEvents : Option (List UsageEventRecord)
  auditEvents : List AuditEventRecord

/-- A row of an export, by the record that it renders. -/
inductive ExportRow
  | usage (event : UsageEventRecord)
  | audit (event : AuditEventRecord)

structure ExportPage where
  rows : List ExportRow
  nextCursor : Option String
  totalFilteredCount : Nat

section Scope

def dashboardUsageEventMatchesScope (event : UsageEventRecord) (scope : DashboardScopeInput) : Bool :=
  event.tenantId == scope.tenantId &&
    match scope.scopeKind with
    | "tenant" => event.tenantId == scope.scopeId
    | "organization" => event.organizationId == scope.organizationId
    | "project" => event.projectId == scope.projectId
    | "project_member" => event.projectMemberId == scope.projectMemberId
    | "api_key" => event.apiKeyId == some scope.scopeId
    | "service_account" => event.serviceAccountId == some scope.scopeId
    | "model_alias" => event.modelAliasId == some scope.scopeId
    | "model_target" => event.modelTargetId == some scope.scopeId
    | "provider_endpoint" => event.providerEndpointId == some scope.scopeId
    | "route_policy" => event.routePolicyId == some scope.scopeId
    | "routing_group" => event.routingGroupId == some scope.scopeId
    | "protocol_family" => event.protocolFamily.asStr == scope.scopeId
    | _ => false

def exportAuditEventMatchesScope (event : AuditEventRecord) (scope : DashboardScopeInput) : Bool :=
  event.tenantId == scope.tenantId &&
    match scope.scopeKind with
    | "tenant" => event.tenantId == scope.scopeId
    | "organization" =>
      event.organizationId == scope.organizationId || event.scopeKind == "organization" && event.scopeId == scope.scopeId
    | "project" => event.projectId == scope.projectId || event.scopeKind == "project" && event.scopeId == scope.scopeId
    | _ => event.scopeKind == scope.scopeKind && event.scopeId == scope.scopeId

end Scope

section Orders

/-- The order of a listing: newest first, and by id. -/
def compareListedUsage (left right : UsageEventRecord) : Ordering :=
  (compare right.occurredAt.nanos left.occurredAt.nanos).then (compare left.usageEventId right.usageEventId)

/-- The order of an export: newest first, and backwards by id. -/
def compareExportedUsage (left right : UsageEventRecord) : Ordering :=
  (compare right.occurredAt.nanos left.occurredAt.nanos).then (compare right.usageEventId left.usageEventId)

def compareExportedAudit (left right : AuditEventRecord) : Ordering :=
  (compare right.occurredAt.nanos left.occurredAt.nanos).then (compare right.auditEventId left.auditEventId)

instance : Std.TransCmp compareListedUsage :=
  have : Std.TransCmp (fun left right : UsageEventRecord => compareOn (·.occurredAt.nanos) right left) :=
    Std.TransCmp.opposite
  inferInstanceAs (Std.TransCmp (compareLex (fun left right : UsageEventRecord =>
    compareOn (·.occurredAt.nanos) right left) (compareOn (·.usageEventId))))

instance : Std.TransCmp compareExportedUsage :=
  have : Std.TransCmp (fun left right : UsageEventRecord => compareOn (·.occurredAt.nanos) right left) :=
    Std.TransCmp.opposite
  have : Std.TransCmp (fun left right : UsageEventRecord => compareOn (·.usageEventId) right left) :=
    Std.TransCmp.opposite
  inferInstanceAs (Std.TransCmp (compareLex (fun left right : UsageEventRecord =>
    compareOn (·.occurredAt.nanos) right left) (fun left right => compareOn (·.usageEventId) right left)))

instance : Std.TransCmp compareExportedAudit :=
  have : Std.TransCmp (fun left right : AuditEventRecord => compareOn (·.occurredAt.nanos) right left) :=
    Std.TransCmp.opposite
  have : Std.TransCmp (fun left right : AuditEventRecord => compareOn (·.auditEventId) right left) :=
    Std.TransCmp.opposite
  inferInstanceAs (Std.TransCmp (compareLex (fun left right : AuditEventRecord =>
    compareOn (·.occurredAt.nanos) right left) (fun left right => compareOn (·.auditEventId) right left)))

end Orders

section Cursors

def usizeMax : Nat := 2 ^ 64 - 1

def parseUsize (text : String) : Option Nat :=
  let digits :=
    match text.toList with
    | '+' :: rest => rest
    | digits => digits
  if digits.isEmpty || digits.any (fun c => !c.isDigit) then none
  else if Nat.ofDigitChars 10 digits 0 ≤ usizeMax then some (Nat.ofDigitChars 10 digits 0) else none

def exportListLimit (limit : Option Nat) : Result Nat :=
  match limit.getD 100 with
  | 0 => .error (.badRequest "export_limit_must_be_positive")
  | value => if 200 < value then .error (.badRequest "export_limit_exceeds_maximum") else .ok value

def exportListOffset (cursor : Option String) : Result Nat :=
  match cursor with
  | none => .ok 0
  | some text =>
    match parseUsize text with
    | none => .error (.badRequest "export_cursor_invalid")
    | some offset => .ok offset

theorem parseUsize_toString {n : Nat} (h : n ≤ usizeMax) : parseUsize (toString n) = some n := by
  have hdigits : (toString n).toList = Nat.toDigits 10 n := by
    show (Nat.repr n).toList = _
    simp [Nat.repr]
  have hall : ∀ c ∈ Nat.toDigits 10 n, c.isDigit = true := fun c hc =>
    Nat.isDigit_of_mem_toDigits (by decide) (by decide) hc
  have hnonempty : Nat.toDigits 10 n ≠ [] := Nat.toDigits_ne_nil
  unfold parseUsize
  rw [hdigits]
  split
  · rename_i rest hplus
    have hsign := hall '+' (hplus ▸ List.mem_cons_self)
    exact absurd hsign (by decide)
  · have hvalid : ((Nat.toDigits 10 n).isEmpty || (Nat.toDigits 10 n).any (fun c => !c.isDigit)) = false := by
      rw [Bool.or_eq_false_iff, List.isEmpty_eq_false_iff, List.any_eq_false]
      exact ⟨hnonempty, fun c hc => by rw [hall c hc]; decide⟩
    simp only [hvalid, Bool.false_eq_true, if_false, Nat.ofDigitChars_ten_toDigits, if_pos h]

theorem exportListOffset_next {n : Nat} (h : n ≤ usizeMax) : exportListOffset (some (toString n)) = .ok n := by
  rw [exportListOffset, parseUsize_toString h]

theorem exportListLimit_pos {limit : Option Nat} {value : Nat} (h : exportListLimit limit = .ok value) : 0 < value := by
  unfold exportListLimit at h
  split at h
  · cases h
  · rename_i hzero
    split at h
    · cases h
    · cases h
      exact Nat.pos_of_ne_zero hzero

end Cursors

section Pages

def usageAnalyticsDurableScanLimit : Nat := 100000

def usageEventsForTenant (events : List UsageEventRecord) (tenantId : String) : List UsageEventRecord :=
  sortBy compareListedUsage (events.filter fun event => event.tenantId == tenantId)

namespace ExportStore

variable (store : ExportStore) (kind : String) (scope : DashboardScopeInput)

/-- The scan of the PostgreSQL table stops at the limit, newest events first. -/
def usageEventsForAnalytics (tenantId : String) : List UsageEventRecord :=
  match store.postgresUsageEvents with
  | some table => (usageEventsForTenant table tenantId).take usageAnalyticsDurableScanLimit
  | none => usageEventsForTenant store.usageEvents tenantId

/-- The list that the pages of an export are cut from. -/
def exportedRows : List ExportRow :=
  if kind = "usage" then
    (sortBy compareExportedUsage ((store.usageEventsForAnalytics scope.tenantId).filter
      (dashboardUsageEventMatchesScope · scope))).map .usage
  else if kind = "audit" then
    (sortBy compareExportedAudit ((store.auditEvents.filter (·.tenantId == scope.tenantId)).filter
      (exportAuditEventMatchesScope · scope))).map .audit
  else []

/-- Every record of the store in use that is in scope. -/
def recordsInScope : List ExportRow :=
  if kind = "usage" then
    ((store.postgresUsageEvents.getD store.usageEvents).filter (dashboardUsageEventMatchesScope · scope)).map .usage
  else if kind = "audit" then (store.auditEvents.filter (exportAuditEventMatchesScope · scope)).map .audit
  else []

end ExportStore

def validateExportKind (kind : String) : Result Unit :=
  if kind = "usage" ∨ kind = "audit" then .ok () else .error (.badRequest "export_kind_invalid")

def exportPage (records : List ExportRow) (limit offset : Nat) : ExportPage :=
  let rows := (records.drop offset).take limit
  let nextOffset := min usizeMax (offset + rows.length)
  ⟨rows, if nextOffset < records.length then some (toString nextOffset) else none, records.length⟩

def buildExportPage (store : ExportStore) (kind : String) (scope : DashboardScopeInput) (limit offset : Nat) :
    Result ExportPage :=
  if kind = "usage" ∨ kind = "audit" then .ok (exportPage (store.exportedRows kind scope) limit offset)
  else .error (.badRequest "export_kind_invalid")

/-- A run that follows the cursors from a first one until there is none, each page from the store as it then is. -/
inductive ExportRun (kind : String) (scope : DashboardScopeInput) (limit : Nat) :
    Option String → List ExportStore → List ExportRow → Prop
  | last {cursor : Option String} {offset total : Nat} {store : ExportStore} {rows : List ExportRow}
      (hoffset : exportListOffset cursor = .ok offset)
      (hpage : buildExportPage store kind scope limit offset = .ok ⟨rows, none, total⟩) :
      ExportRun kind scope limit cursor [store] rows
  | next {cursor : Option String} {offset total : Nat} {store : ExportStore} {rows later : List ExportRow}
      {following : String} {rest : List ExportStore} (hoffset : exportListOffset cursor = .ok offset)
      (hpage : buildExportPage store kind scope limit offset = .ok ⟨rows, some following, total⟩)
      (hrest : ExportRun kind scope limit (some following) rest later) :
      ExportRun kind scope limit cursor (store :: rest) (rows ++ later)

variable {store : ExportStore} {kind : String} {scope : DashboardScopeInput} {limit : Nat}

theorem exportListOffset_le {cursor : Option String} {offset : Nat} (h : exportListOffset cursor = .ok offset) : offset ≤ usizeMax := by
  unfold exportListOffset at h
  split at h
  · cases h
    exact Nat.zero_le _
  · split at h
    · cases h
    · rename_i text value hparse
      cases h
      unfold parseUsize at hparse
      simp only at hparse
      split_ifs at hparse with hdigits hfits
      cases hparse
      exact hfits

/-- A page of an export is the page of its list, with the offset of the next one as text. -/
theorem exportPage_eq {records : List ExportRow} {offset : Nat} (hfits : records.length ≤ usizeMax) (hoffset : offset ≤ usizeMax) :
    exportPage records limit offset =
      ⟨(page limit offset records).1, (page limit offset records).2.map toString, records.length⟩ := by
  have hsaturates : min usizeMax (offset + ((records.drop offset).take limit).length) =
      offset + ((records.drop offset).take limit).length := by
    rw [List.length_take, List.length_drop]
    omega
  unfold exportPage page
  simp only [hsaturates]
  split
  · rfl
  · rfl

/-- The run reads the pages of the exported lists. -/
theorem ExportRun.pages {cursor : Option String} {stores : List ExportStore} {rows : List ExportRow}
    (h : ExportRun kind scope limit cursor stores rows)
    (hfits : ∀ store ∈ stores, (store.exportedRows kind scope).length ≤ usizeMax) {offset : Nat}
    (hoffset : exportListOffset cursor = .ok offset) :
    PagesThrough limit offset (stores.map (·.exportedRows kind scope)) rows := by
  induction h generalizing offset with
  | @last cursor first total store rows hfirst hpage =>
    cases hfirst.symm.trans hoffset
    have hle := exportListOffset_le hoffset
    have hfit := hfits store List.mem_cons_self
    unfold buildExportPage at hpage
    split at hpage
    · rw [exportPage_eq hfit hle] at hpage
      simp only [Except.ok.injEq, ExportPage.mk.injEq, Option.map_eq_none_iff] at hpage
      exact .last (Prod.ext hpage.1 hpage.2.1)
    · cases hpage
  | @next cursor first total store rows later following rest hfirst hpage hrest ih =>
    cases hfirst.symm.trans hoffset
    have hle := exportListOffset_le hoffset
    obtain ⟨hfit, hfits⟩ := List.forall_mem_cons.mp hfits
    unfold buildExportPage at hpage
    split at hpage
    · rw [exportPage_eq hfit hle] at hpage
      simp only [Except.ok.injEq, ExportPage.mk.injEq, Option.map_eq_some_iff] at hpage
      obtain ⟨hrows, ⟨nextOffset, hnext, rfl⟩, -⟩ := hpage
      have hpaged : page limit first (store.exportedRows kind scope) = (rows, some nextOffset) := Prod.ext hrows hnext
      have hbelow := (page_next hpaged).2.2
      exact .next hpaged (ih hfits (exportListOffset_next (hbelow.le.trans hfit)))
    · cases hpage

/-- The pages of one list are read by a run over the one store. -/
theorem exportRun_of_pages {n offset : Nat} {rows : List ExportRow} (hkind : validateExportKind kind = .ok ())
    (hfits : (store.exportedRows kind scope).length ≤ usizeMax) {cursor : Option String}
    (hoffset : exportListOffset cursor = .ok offset)
    (h : PagesThrough limit offset (List.replicate (n + 1) (store.exportedRows kind scope)) rows) :
    ExportRun kind scope limit cursor (List.replicate (n + 1) store) rows := by
  have hvalid : kind = "usage" ∨ kind = "audit" := by
    unfold validateExportKind at hkind
    split at hkind
    · assumption
    · cases hkind
  have hbuilt {start : Nat} (hle : start ≤ usizeMax) : buildExportPage store kind scope limit start =
      .ok ⟨(page limit start (store.exportedRows kind scope)).1,
        (page limit start (store.exportedRows kind scope)).2.map toString, (store.exportedRows kind scope).length⟩ := by
    rw [buildExportPage, if_pos hvalid, exportPage_eq hfits hle]
  induction n generalizing offset cursor rows with
  | zero =>
    have hpage := hbuilt (exportListOffset_le hoffset)
    cases h with
    | last hlast =>
      rw [hlast] at hpage
      exact .last hoffset hpage
    | next hnext hrest => cases hrest
  | succ n ih =>
    have hpage := hbuilt (exportListOffset_le hoffset)
    cases h with
    | next hnext hrest =>
      rw [hnext] at hpage
      have hbelow := (page_next hnext).2.2
      exact .next hoffset hpage (ih (exportListOffset_next (hbelow.le.trans hfits)) hrest)

end Pages

section Completeness

/-- Records are only added. -/
structure Grows (store next : ExportStore) : Prop where
  usage : store.usageEvents.Sublist next.usageEvents
  postgres : Option.Rel List.Sublist store.postgresUsageEvents next.postgresUsageEvents
  audit : store.auditEvents.Sublist next.auditEvents

/-- No event in scope is past the limit of the scan. -/
def ScanCovers (store : ExportStore) (kind : String) (scope : DashboardScopeInput) : Prop :=
  kind = "usage" → ∀ table, store.postgresUsageEvents = some table →
    ∀ event ∈ (usageEventsForTenant table scope.tenantId).drop usageAnalyticsDurableScanLimit,
      dashboardUsageEventMatchesScope event scope = false

variable {store next : ExportStore} {kind : String} {scope : DashboardScopeInput}

theorem filter_of_tenant {events : List UsageEventRecord} :
    (events.filter (·.tenantId == scope.tenantId)).filter (dashboardUsageEventMatchesScope · scope) =
      events.filter (dashboardUsageEventMatchesScope · scope) := by
  rw [List.filter_filter]
  refine List.filter_congr fun event _ => ?_
  unfold dashboardUsageEventMatchesScope
  cases event.tenantId == scope.tenantId <;> simp

theorem tenantEvents_perm (events : List UsageEventRecord) :
    ((usageEventsForTenant events scope.tenantId).filter (dashboardUsageEventMatchesScope · scope)).Perm
      (events.filter (dashboardUsageEventMatchesScope · scope)) := by
  have hsorted := (sortBy_perm compareListedUsage (events.filter (·.tenantId == scope.tenantId))).filter
    (dashboardUsageEventMatchesScope · scope)
  rwa [filter_of_tenant] at hsorted

theorem ScanCovers.analytics (h : ScanCovers store "usage" scope) :
    (store.usageEventsForAnalytics scope.tenantId).filter (dashboardUsageEventMatchesScope · scope) =
      (usageEventsForTenant (store.postgresUsageEvents.getD store.usageEvents) scope.tenantId).filter
        (dashboardUsageEventMatchesScope · scope) := by
  unfold ExportStore.usageEventsForAnalytics
  cases htable : store.postgresUsageEvents with
  | none => rfl
  | some table =>
    have hdropped : ((usageEventsForTenant table scope.tenantId).drop usageAnalyticsDurableScanLimit).filter
        (dashboardUsageEventMatchesScope · scope) = [] := by
      rw [List.filter_eq_nil_iff]
      intro event hevent
      rw [h rfl table htable event hevent]
      decide
    simp only [Option.getD_some]
    conv_rhs => rw [← List.take_append_drop usageAnalyticsDurableScanLimit (usageEventsForTenant table scope.tenantId)]
    rw [List.filter_append, hdropped, List.append_nil]

theorem audit_filter_of_tenant {events : List AuditEventRecord} :
    (events.filter (·.tenantId == scope.tenantId)).filter (exportAuditEventMatchesScope · scope) =
      events.filter (exportAuditEventMatchesScope · scope) := by
  rw [List.filter_filter]
  refine List.filter_congr fun event _ => ?_
  unfold exportAuditEventMatchesScope
  cases event.tenantId == scope.tenantId <;> simp

/-- When the scan reaches all of them, the pages are cut from the records in scope. -/
theorem ScanCovers.exportedRows_perm (h : ScanCovers store kind scope) :
    (store.exportedRows kind scope).Perm (store.recordsInScope kind scope) := by
  unfold ExportStore.exportedRows ExportStore.recordsInScope
  split
  · rename_i hkind
    subst hkind
    rw [h.analytics]
    exact ((sortBy_perm _ _).trans (tenantEvents_perm _)).map _
  · split
    · rw [audit_filter_of_tenant]
      exact (sortBy_perm _ _).map _
    · exact List.Perm.refl _

theorem exportedRows_perm_iff :
    (store.exportedRows kind scope).Perm (store.recordsInScope kind scope) ↔ ScanCovers store kind scope := by
  refine ⟨fun hperm hkind table htable => ?_, fun h => h.exportedRows_perm⟩
  subst hkind
  have hlength := hperm.length_eq
  rw [ExportStore.exportedRows, ExportStore.recordsInScope, if_pos rfl, if_pos rfl, List.length_map, List.length_map,
    (sortBy_perm _ _).length_eq, htable, Option.getD_some, ← (tenantEvents_perm table).length_eq,
    ExportStore.usageEventsForAnalytics, htable] at hlength
  have hsplit : ((usageEventsForTenant table scope.tenantId).filter (dashboardUsageEventMatchesScope · scope)).length =
      (((usageEventsForTenant table scope.tenantId).take usageAnalyticsDurableScanLimit).filter
        (dashboardUsageEventMatchesScope · scope)).length +
      (((usageEventsForTenant table scope.tenantId).drop usageAnalyticsDurableScanLimit).filter
        (dashboardUsageEventMatchesScope · scope)).length := by
    rw [← List.length_append, ← List.filter_append, List.take_append_drop]
  have hnone : ((usageEventsForTenant table scope.tenantId).drop usageAnalyticsDurableScanLimit).filter
      (dashboardUsageEventMatchesScope · scope) = [] := by
    rw [← List.length_eq_zero_iff]
    simp only at hlength
    omega
  intro event hevent
  exact Bool.not_eq_true _ ▸ List.filter_eq_nil_iff.mp hnone event hevent

theorem Grows.exportedRows_sublist (h : Grows store next) (hscan : ScanCovers store kind scope)
    (hscan' : ScanCovers next kind scope) : (store.exportedRows kind scope).Sublist (next.exportedRows kind scope) := by
  unfold ExportStore.exportedRows
  split
  · rename_i hkind
    subst hkind
    rw [hscan.analytics, hscan'.analytics]
    have htable : (store.postgresUsageEvents.getD store.usageEvents).Sublist
        (next.postgresUsageEvents.getD next.usageEvents) := by
      have hpostgres := h.postgres
      generalize store.postgresUsageEvents = table at hpostgres ⊢
      generalize next.postgresUsageEvents = table' at hpostgres ⊢
      cases hpostgres with
      | some htable => exact htable
      | none => exact h.usage
    exact (sublist_sortBy _ ((sublist_sortBy _ (htable.filter _)).filter _)).map _
  · split
    · exact (sublist_sortBy _ ((h.audit.filter _).filter _)).map _
    · exact List.Sublist.refl _

theorem exportedRows_chain {stores : List ExportStore} (hgrow : stores.IsChain Grows)
    (hscan : ∀ store ∈ stores, ScanCovers store kind scope) :
    (stores.map (·.exportedRows kind scope)).IsChain List.Sublist := by
  rw [List.isChain_map]
  refine hgrow.imp_of_mem_imp fun store next hstore hnext hgrows => ?_
  exact hgrows.exportedRows_sublist (hscan store hstore) (hscan next hnext)

end Completeness

/-- Paging loses no record while the scan reaches every event in scope. Without new records each one comes exactly once
just in that case, and the pages come to an end. -/
theorem exportPages_complete {kind : String} {scope : DashboardScopeInput} {requested : Option Nat} {limit : Nat}
    (hlimit : exportListLimit requested = .ok limit) (hkind : validateExportKind kind = .ok ()) {first : ExportStore}
    {later : List ExportStore}
    (hfits : ∀ store ∈ first :: later, (store.exportedRows kind scope).length ≤ usizeMax) :
    ((first :: later).IsChain Grows → (∀ store ∈ first :: later, ScanCovers store kind scope) →
      ∀ rows, ExportRun kind scope limit none (first :: later) rows → (first.recordsInScope kind scope).Subperm rows) ∧
    ((∀ n rows, ExportRun kind scope limit none (List.replicate (n + 1) first) rows →
      rows.Perm (first.recordsInScope kind scope)) ↔ ScanCovers first kind scope) ∧
    ∃ n rows, ExportRun kind scope limit none (List.replicate (n + 1) first) rows := by
  have hfirst := hfits first List.mem_cons_self
  obtain ⟨n, rows, hpages⟩ := exists_pagesThrough (exportListLimit_pos hlimit) 0 (first.exportedRows kind scope)
  have hends : ExportRun kind scope limit none (List.replicate (n + 1) first) rows :=
    exportRun_of_pages hkind hfirst rfl hpages
  have hwhole (n : Nat) (rows : List ExportRow) (hrun : ExportRun kind scope limit none (List.replicate (n + 1) first) rows) :
      rows = first.exportedRows kind scope := by
    refine (hrun.pages (fun store hstore => ?_) rfl).exact fun snapshot hsnapshot => ?_
    · cases List.eq_of_mem_replicate hstore
      exact hfirst
    · obtain ⟨store, hstore, rfl⟩ := List.mem_map.mp hsnapshot
      exact congrArg (·.exportedRows kind scope) (List.eq_of_mem_replicate hstore)
  refine ⟨fun hgrow hscan rows hrun => ?_, ⟨fun hall => ?_, fun hscan n rows hrun => ?_⟩, n, rows, hends⟩
  · have hcovers := (hrun.pages hfits rfl).covers (exportedRows_chain hgrow hscan) _ rfl
    exact (hscan first List.mem_cons_self).exportedRows_perm.symm.subperm.trans hcovers.subperm
  · have hperm := hall n rows hends
    rw [hwhole n rows hends] at hperm
    exact exportedRows_perm_iff.mp hperm
  · rw [hwhole n rows hrun]
    exact hscan.exportedRows_perm

section Examples

def usageEventAt (n : Nat) : UsageEventRecord where
  tenantId := "tenant_1"
  organizationId := some "org_1"
  projectId := none
  principalId := none
  projectMemberId := none
  serviceAccountId := none
  apiKeyId := some "key_1"
  modelAliasId := some "alias_1"
  modelTargetId := some "target_a"
  providerEndpointId := some "ep_a"
  upstreamCredentialId := none
  routePolicyId := some "policy_1"
  routingGroupId := some "group_1"
  protocolFamily := .openAiResponses
  status := .success
  usageConfidence := .exact
  usageEventId := "usg_" ++ toString n
  requestId := "req_" ++ toString n
  usagePayload := .object []
  costPayload := .object []
  occurredAt := ⟨n⟩

def tenantScope : DashboardScopeInput := ⟨"tenant_1", "tenant", "tenant_1", none, none, none⟩

def memoryStore (events : List UsageEventRecord) : ExportStore := ⟨events, none, []⟩

/-- The stores of three pages of one row each; a third event comes after the first page. -/
def growingStores : List ExportStore :=
  [memoryStore [usageEventAt 1, usageEventAt 2], memoryStore [usageEventAt 1, usageEventAt 2, usageEventAt 3],
    memoryStore [usageEventAt 1, usageEventAt 2, usageEventAt 3]]

theorem growingStores_run : ExportRun "usage" tenantScope 1 none growingStores
    [.usage (usageEventAt 2), .usage (usageEventAt 2), .usage (usageEventAt 1)] := by
  have htwo : buildExportPage (memoryStore [usageEventAt 1, usageEventAt 2]) "usage" tenantScope 1 0 =
      .ok ⟨[.usage (usageEventAt 2)], some "1", 2⟩ := by rfl
  have hthree : buildExportPage (memoryStore [usageEventAt 1, usageEventAt 2, usageEventAt 3]) "usage" tenantScope 1 1 =
      .ok ⟨[.usage (usageEventAt 2)], some "2", 3⟩ := by rfl
  have hlast : buildExportPage (memoryStore [usageEventAt 1, usageEventAt 2, usageEventAt 3]) "usage" tenantScope 1 2 =
      .ok ⟨[.usage (usageEventAt 1)], none, 3⟩ := by rfl
  exact .next rfl htwo (.next rfl hthree (.last rfl hlast))

theorem growingExport_complete :
    ((memoryStore [usageEventAt 1, usageEventAt 2]).recordsInScope "usage" tenantScope).Subperm
      [.usage (usageEventAt 2), .usage (usageEventAt 2), .usage (usageEventAt 1)] := by
  have hgrow : growingStores.IsChain Grows := by
    refine List.isChain_cons_cons.mpr ⟨?_, List.isChain_pair.mpr ?_⟩
    · exact ⟨List.sublist_append_left [_, _] [_], Option.Rel.none, List.Sublist.refl _⟩
    · exact ⟨List.Sublist.refl _, Option.Rel.none, List.Sublist.refl _⟩
  have hfits : ∀ store ∈ growingStores, (store.exportedRows "usage" tenantScope).length ≤ usizeMax := by decide +kernel
  have hscan : ∀ store ∈ growingStores, ScanCovers store "usage" tenantScope := by
    refine List.forall_mem_cons.mpr ⟨?_, List.forall_mem_cons.mpr ⟨?_, List.forall_mem_singleton.mpr ?_⟩⟩
    · exact fun _ table htable => (by cases htable)
    · exact fun _ table htable => (by cases htable)
    · exact fun _ table htable => (by cases htable)
  have hlimit : exportListLimit (some 1) = .ok 1 := rfl
  exact (exportPages_complete hlimit rfl hfits).1 hgrow hscan _ growingStores_run

/-- One more event of the tenant than the scan of the table returns. -/
def crowdedStore : ExportStore :=
  ⟨[], some ((List.range (usageAnalyticsDurableScanLimit + 1)).map usageEventAt), []⟩

theorem crowdedStore_inScope :
    (crowdedStore.recordsInScope "usage" tenantScope).length = usageAnalyticsDurableScanLimit + 1 := by
  have hall : ((List.range (usageAnalyticsDurableScanLimit + 1)).map usageEventAt).filter
      (dashboardUsageEventMatchesScope · tenantScope) =
        (List.range (usageAnalyticsDurableScanLimit + 1)).map usageEventAt := by
    refine List.filter_eq_self.mpr fun event hevent => ?_
    obtain ⟨n, -, rfl⟩ := List.mem_map.mp hevent
    rfl
  rw [ExportStore.recordsInScope, if_pos rfl, List.length_map, crowdedStore, Option.getD_some, hall, List.length_map,
    List.length_range]

theorem crowdedStore_exported : (crowdedStore.exportedRows "usage" tenantScope).length ≤ usageAnalyticsDurableScanLimit := by
  rw [ExportStore.exportedRows, if_pos rfl, List.length_map, (sortBy_perm _ _).length_eq]
  exact (List.length_filter_le _ _).trans (List.length_take_le _ _)

/-- The pages end, and one event of the table is on none of them. -/
theorem crowdedExport_loses :
    ∃ n rows, ExportRun "usage" tenantScope 200 none (List.replicate (n + 1) crowdedStore) rows ∧
      ¬ (crowdedStore.recordsInScope "usage" tenantScope).Subperm rows := by
  have hscan : usageAnalyticsDurableScanLimit ≤ usizeMax := by decide
  have hfits := crowdedStore_exported.trans hscan
  obtain ⟨n, rows, hpages⟩ := exists_pagesThrough (by decide : 0 < 200) 0 (crowdedStore.exportedRows "usage" tenantScope)
  have hrows : rows = crowdedStore.exportedRows "usage" tenantScope :=
    hpages.exact fun snapshot hsnapshot => List.eq_of_mem_replicate hsnapshot
  refine ⟨n, rows, exportRun_of_pages rfl hfits rfl hpages, fun hall => ?_⟩
  have hlength := hall.length_le
  rw [hrows, crowdedStore_inScope] at hlength
  have hexported := crowdedStore_exported
  omega

end Examples

end Starweaver.Gateway
