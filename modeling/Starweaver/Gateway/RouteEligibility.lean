import Starweaver.Gateway.RoutePlanning

namespace Starweaver.Gateway

open Library.Calendar Library.Checks Library.SortBy

instance : Std.TransCmp candidateOrder :=
  have : Std.TransCmp (fun a b : RoutingGroupTargetConfig => compareOn (·.weight) b a) := Std.TransCmp.opposite
  inferInstanceAs (Std.TransCmp (compareLex (compareOn (fun entry : RoutingGroupTargetConfig => entry.priority))
    (compareLex (fun a b => compareOn (fun entry : RoutingGroupTargetConfig => entry.weight) b a)
      (compareOn (fun entry : RoutingGroupTargetConfig => entry.modelTargetId)))))

/-- Every test on a candidate except the provider grant, stated on the lists of the catalog. -/
structure PassesRouteTests (catalog : GatewayCatalogSnapshot) (request : RoutePlanRequest)
    (entry : RoutingGroupTargetConfig) (target : ModelTargetConfig) (endpoint : ProviderEndpoint) : Prop where
  entry_active : entry.status = .active
  target_listed : target ∈ catalog.modelTargets
  target_named : target.modelTargetId = entry.modelTargetId
  target_active : target.status = .active
  target_protocol : target.protocolFamily = request.protocolFamily
  target_streaming : request.streaming = true → target.supportsStreaming = true
  endpoint_listed : endpoint ∈ catalog.providerEndpoints
  endpoint_named : endpoint.providerEndpointId = target.providerEndpointId
  endpoint_active : endpoint.status = .active
  endpoint_protocol : request.protocolFamily ∈ endpoint.protocolFamilies
  not_drained : request.hotState.endpointIsDrained endpoint.tenantId endpoint.providerEndpointId
    request.configVersion request.now = false
  not_unhealthy : request.hotState.endpointHealthState endpoint.tenantId endpoint.providerEndpointId
    request.configVersion request.now ≠ .unhealthy
  not_blocked : request.hotState.endpointHealthState endpoint.tenantId endpoint.providerEndpointId
    request.configVersion request.now ≠ .blocked
  credential_usable : ∀ id, target.upstreamCredentialId = some id →
    ∃ credential ∈ catalog.upstreamCredentials,
      credential.upstreamCredentialId = id ∧ credential.status.isUsable = true

structure RouteBinding where
  modelAlias : ModelAliasConfig
  policy : RoutePolicyConfig
  group : RoutingGroupConfig

def RouteBinding.path (binding : RouteBinding) (target : ModelTargetConfig) (endpoint : ProviderEndpoint) :
    ProviderGrantPath :=
  ⟨binding.modelAlias, binding.policy, binding.group, target, endpoint⟩

/-- The entry leads to this target and endpoint and passes every test, the grant included. -/
def Eligible (catalog : GatewayCatalogSnapshot) (request : RoutePlanRequest) (binding : RouteBinding)
    (entry : RoutingGroupTargetConfig) (target : ModelTargetConfig) (endpoint : ProviderEndpoint) : Prop :=
  PassesRouteTests catalog request entry target endpoint ∧
    catalog.providerGrantAllows request.actor (binding.path target endpoint) = true

def OnlyGrantDenied (catalog : GatewayCatalogSnapshot) (request : RoutePlanRequest) (binding : RouteBinding)
    (entry : RoutingGroupTargetConfig) (target : ModelTargetConfig) (endpoint : ProviderEndpoint) : Prop :=
  PassesRouteTests catalog request entry target endpoint ∧
    catalog.providerGrantAllows request.actor (binding.path target endpoint) = false

structure ContextOf (catalog : GatewayCatalogSnapshot) (request : RoutePlanRequest) (binding : RouteBinding)
    (context : RouteCandidateContext) : Prop where
  actor : context.actor = request.actor
  protocolFamily : context.protocolFamily = request.protocolFamily
  streaming : context.streaming = request.streaming
  modelAlias : context.modelAlias = binding.modelAlias
  policy : context.policy = binding.policy
  group : context.group = binding.group
  endpoints : indexEndpoints catalog.providerEndpoints = .ok context.endpoints
  credentials : indexCredentials catalog.upstreamCredentials = .ok context.credentials
  targets : indexTargets catalog.modelTargets = .ok context.targets
  hotState : context.hotState = request.hotState
  configVersion : context.configVersion = request.configVersion
  now : context.now = request.now

section Evaluation

variable {catalog : GatewayCatalogSnapshot} {request : RoutePlanRequest} {binding : RouteBinding}
  {context : RouteCandidateContext} {candidate : RoutingGroupTargetConfig}
  {target : ModelTargetConfig} {endpoint : ProviderEndpoint}

theorem ContextOf.path_eq (h : ContextOf catalog request binding context) :
    context.path target endpoint = binding.path target endpoint := by
  simp only [RouteCandidateContext.path, RouteBinding.path, h.modelAlias, h.policy, h.group]

theorem ContextOf.credential_usable_iff (h : ContextOf catalog request binding context) (id : String) :
    (∃ credential ∈ catalog.upstreamCredentials,
      credential.upstreamCredentialId = id ∧ credential.status.isUsable = true) ↔
      ∃ credential, context.credentials.lookup id = some credential ∧ credential.status.isUsable = true := by
  simp only [indexBy_lookup h.credentials, and_assoc]

theorem PassesRouteTests.target_lookup (h : ContextOf catalog request binding context)
    (hp : PassesRouteTests catalog request candidate target endpoint) :
    context.targets.lookup candidate.modelTargetId = some target :=
  (indexBy_lookup h.targets _ _).mpr ⟨hp.target_listed, hp.target_named⟩

theorem PassesRouteTests.endpoint_lookup (h : ContextOf catalog request binding context)
    (hp : PassesRouteTests catalog request candidate target endpoint) :
    context.endpoints.lookup target.providerEndpointId = some endpoint :=
  (indexBy_lookup h.endpoints _ _).mpr ⟨hp.endpoint_listed, hp.endpoint_named⟩

theorem evaluateCandidate_of_passes (h : ContextOf catalog request binding context)
    (hp : PassesRouteTests catalog request candidate target endpoint) :
    catalog.evaluateCandidate candidate context =
      if catalog.providerGrantAllows request.actor (binding.path target endpoint) then .selected target endpoint
      else .filtered .providerGrantDenied := by
  have hentry := ResourceStatus.isActive_iff.mpr hp.entry_active
  have htarget := ResourceStatus.isActive_iff.mpr hp.target_active
  have hendpoint := ResourceStatus.isActive_iff.mpr hp.endpoint_active
  have hprotocol : target.protocolFamily = context.protocolFamily := by rw [hp.target_protocol, h.protocolFamily]
  have hstream : (context.streaming && !target.supportsStreaming) = false := by
    have := hp.target_streaming
    rw [h.streaming]
    cases hr : request.streaming <;> simp_all
  have hfamily : endpoint.protocolFamilies.contains context.protocolFamily = true := by
    simpa [h.protocolFamily] using hp.endpoint_protocol
  have hdrain := hp.not_drained
  rw [← h.hotState, ← h.configVersion, ← h.now] at hdrain
  have hunhealthy := hp.not_unhealthy
  have hblocked := hp.not_blocked
  rw [← h.hotState, ← h.configVersion, ← h.now] at hunhealthy hblocked
  have hcredential := hp.credential_usable
  simp only [h.credential_usable_iff] at hcredential
  unfold GatewayCatalogSnapshot.evaluateCandidate
  simp only [hentry, hp.target_lookup h, htarget, hprotocol, hstream, hp.endpoint_lookup h, hendpoint, hfamily,
    hdrain, h.path_eq, h.actor, Bool.not_true, Bool.false_eq_true, ne_eq, not_true_eq_false, if_false]
  cases hgrant : catalog.providerGrantAllows request.actor (binding.path target endpoint) <;>
  cases hid : target.upstreamCredentialId with
  | none => split <;> simp_all
  | some id =>
    obtain ⟨credential, hlookup, husable⟩ := hcredential id hid
    split <;> simp_all

/-- An evaluation that only the provider grants may filter. -/
def OnlyGrants (evaluation : CandidateEvaluation) : Prop :=
  ∀ reason, evaluation = .filtered reason → reason = .providerGrantDenied

theorem OnlyGrants.of_ite {test : Prop} [Decidable test] {reason : RouteFilterReason} {rest : CandidateEvaluation}
    (hreason : reason ≠ .providerGrantDenied)
    (h : OnlyGrants (if test then .filtered reason else rest)) : ¬test ∧ OnlyGrants rest := by
  by_cases htest : test
  · rw [if_pos htest] at h
    exact absurd (h reason rfl) hreason
  · rw [if_neg htest] at h
    exact ⟨htest, h⟩

theorem OnlyGrants.not_filtered {reason : RouteFilterReason} (hreason : reason ≠ .providerGrantDenied)
    (h : OnlyGrants (.filtered reason)) : False :=
  hreason (h reason rfl)

theorem exists_passes_of_evaluateCandidate (h : ContextOf catalog request binding context)
    (candidate : RoutingGroupTargetConfig)
    (hreason : ∀ reason, catalog.evaluateCandidate candidate context = .filtered reason →
      reason = .providerGrantDenied) :
    ∃ target endpoint, PassesRouteTests catalog request candidate target endpoint := by
  replace hreason : OnlyGrants (catalog.evaluateCandidate candidate context) := hreason
  unfold GatewayCatalogSnapshot.evaluateCandidate at hreason
  obtain ⟨hentry, hreason⟩ := hreason.of_ite (by decide)
  cases htarget : context.targets.lookup candidate.modelTargetId with
  | none =>
    rw [htarget] at hreason
    exact (hreason.not_filtered (by decide)).elim
  | some target =>
    rw [htarget] at hreason
    obtain ⟨hactive, hreason⟩ := hreason.of_ite (by decide)
    obtain ⟨hprotocol, hreason⟩ := hreason.of_ite (by decide)
    obtain ⟨hstream, hreason⟩ := hreason.of_ite (by decide)
    cases hendpoint : context.endpoints.lookup target.providerEndpointId with
    | none =>
      rw [hendpoint] at hreason
      exact (hreason.not_filtered (by decide)).elim
    | some endpoint =>
      rw [hendpoint] at hreason
      obtain ⟨heactive, hreason⟩ := hreason.of_ite (by decide)
      obtain ⟨hfamily, hreason⟩ := hreason.of_ite (by decide)
      obtain ⟨hdrain, hreason⟩ := hreason.of_ite (by decide)
      obtain ⟨htlisted, htnamed⟩ := (indexBy_lookup h.targets _ _).mp htarget
      obtain ⟨helisted, henamed⟩ := (indexBy_lookup h.endpoints _ _).mp hendpoint
      have hhealth : context.hotState.endpointHealthState endpoint.tenantId endpoint.providerEndpointId
          context.configVersion context.now ≠ .unhealthy ∧ context.hotState.endpointHealthState endpoint.tenantId
          endpoint.providerEndpointId context.configVersion context.now ≠ .blocked := by
        constructor
        · intro hstate
          rw [hstate] at hreason
          exact hreason.not_filtered (by decide)
        · intro hstate
          rw [hstate] at hreason
          exact hreason.not_filtered (by decide)
      have hcredential : ∀ id, target.upstreamCredentialId = some id →
          ∃ credential, context.credentials.lookup id = some credential ∧ credential.status.isUsable = true := by
        intro id hid
        rw [hid, Option.map_some] at hreason
        cases hlookup : context.credentials.lookup id with
        | none =>
          rw [hlookup] at hreason
          split at hreason
          all_goals exact (hreason.not_filtered (by decide)).elim
        | some credential =>
          refine ⟨credential, rfl, ?_⟩
          by_contra husable
          rw [hlookup] at hreason
          split at hreason
          · exact hreason.not_filtered (by decide)
          · exact hreason.not_filtered (by decide)
          all_goals exact (hreason.of_ite (by decide)).1 (by simpa using husable)
      rw [h.hotState, h.configVersion, h.now] at hhealth hdrain
      rw [h.protocolFamily] at hprotocol hfamily
      rw [h.streaming] at hstream
      exact ⟨target, endpoint, by simpa using hentry, htlisted, htnamed, by simpa using hactive,
        by simpa using hprotocol, by simpa using hstream, helisted, henamed, by simpa using heactive,
        by simpa using hfamily, by simpa using hdrain, hhealth.1, hhealth.2,
        fun id hid => (h.credential_usable_iff id).mpr (hcredential id hid)⟩

theorem evaluateCandidate_selected (h : ContextOf catalog request binding context) :
    catalog.evaluateCandidate candidate context = .selected target endpoint ↔
      Eligible catalog request binding candidate target endpoint := by
  constructor
  · intro heval
    obtain ⟨t, e, hp⟩ := exists_passes_of_evaluateCandidate h candidate (by simp [heval])
    have hif := evaluateCandidate_of_passes h hp
    rw [heval] at hif
    split at hif
    · rename_i hgrant
      cases hif
      exact ⟨hp, hgrant⟩
    · cases hif
  · rintro ⟨hp, hgrant⟩
    rw [evaluateCandidate_of_passes h hp, if_pos hgrant]

theorem evaluateCandidate_providerGrantDenied (h : ContextOf catalog request binding context) :
    catalog.evaluateCandidate candidate context = .filtered .providerGrantDenied ↔
      ∃ target endpoint, OnlyGrantDenied catalog request binding candidate target endpoint := by
  constructor
  · intro heval
    obtain ⟨t, e, hp⟩ := exists_passes_of_evaluateCandidate h candidate (by simp [heval])
    have hif := evaluateCandidate_of_passes h hp
    rw [heval] at hif
    split at hif
    · cases hif
    · rename_i hgrant
      exact ⟨t, e, hp, by simpa using hgrant⟩
  · rintro ⟨t, e, hp, hgrant⟩
    rw [evaluateCandidate_of_passes h hp, hgrant]
    rfl

theorem not_eligible_of_filtered (h : ContextOf catalog request binding context) {reason : RouteFilterReason}
    (heval : catalog.evaluateCandidate candidate context = .filtered reason) :
    ∀ target endpoint, ¬ Eligible catalog request binding candidate target endpoint := by
  intro target endpoint helig
  rw [(evaluateCandidate_selected h).mpr helig] at heval
  cases heval

end Evaluation

section Loop

variable {catalog : GatewayCatalogSnapshot} {context : RouteCandidateContext} {stickyMissReason : Option String}

theorem firstEligibleRouteSelection_some {candidates : List RoutingGroupTargetConfig}
    {evidence : PlanEvidence} {selection : RouteSelection}
    (h : (catalog.firstEligibleRouteSelection context stickyMissReason candidates evidence).1 = some selection) :
    ∃ before candidate after target endpoint summary, candidates = before ++ candidate :: after ∧
      (∀ earlier ∈ before, ∃ reason, catalog.evaluateCandidate earlier context = .filtered reason) ∧
      catalog.evaluateCandidate candidate context = .selected target endpoint ∧
      selection = routeSelection context target endpoint summary false stickyMissReason := by
  induction candidates generalizing evidence with
  | nil => cases h
  | cons candidate candidates ih =>
    cases heval : catalog.evaluateCandidate candidate context with
    | selected target endpoint =>
      simp only [GatewayCatalogSnapshot.firstEligibleRouteSelection, heval, Option.some.injEq] at h
      exact ⟨[], candidate, candidates, target, endpoint, _, rfl, by simp, heval, h.symm⟩
    | filtered reason =>
      simp only [GatewayCatalogSnapshot.firstEligibleRouteSelection, heval] at h
      obtain ⟨before, chosen, after, target, endpoint, summary, hsplit, hbefore, hchosen, hselection⟩ := ih h
      refine ⟨candidate :: before, chosen, after, target, endpoint, summary, ?_, ?_, hchosen, hselection⟩
      · rw [hsplit, List.cons_append]
      · exact List.forall_mem_cons.mpr ⟨⟨reason, heval⟩, hbefore⟩

theorem PlanEvidence.reject_providerGrantDenied (evidence : PlanEvidence) (reason : RouteFilterReason) :
    (evidence.reject reason).providerGrantDenied = true ↔
      reason = .providerGrantDenied ∨ evidence.providerGrantDenied = true := by
  unfold PlanEvidence.reject
  split <;> simp_all

theorem firstEligibleRouteSelection_none {candidates : List RoutingGroupTargetConfig} {evidence : PlanEvidence}
    (h : (catalog.firstEligibleRouteSelection context stickyMissReason candidates evidence).1 = none) :
    (∀ candidate ∈ candidates, ∃ reason, catalog.evaluateCandidate candidate context = .filtered reason) ∧
      ((catalog.firstEligibleRouteSelection context stickyMissReason candidates evidence).2.providerGrantDenied = true ↔
        evidence.providerGrantDenied = true ∨ ∃ candidate ∈ candidates,
          catalog.evaluateCandidate candidate context = .filtered .providerGrantDenied) := by
  induction candidates generalizing evidence with
  | nil => simp [GatewayCatalogSnapshot.firstEligibleRouteSelection]
  | cons candidate candidates ih =>
    cases heval : catalog.evaluateCandidate candidate context with
    | selected target endpoint => simp [GatewayCatalogSnapshot.firstEligibleRouteSelection, heval] at h
    | filtered reason =>
      simp only [GatewayCatalogSnapshot.firstEligibleRouteSelection, heval] at h ⊢
      obtain ⟨hall, hflag⟩ := ih h
      refine ⟨List.forall_mem_cons.mpr ⟨⟨reason, heval⟩, hall⟩, ?_⟩
      rw [hflag, PlanEvidence.reject_providerGrantDenied]
      simp only [List.mem_cons, exists_eq_or_imp, heval, CandidateEvaluation.filtered.injEq]
      tauto

/-- The sticky pre-pass can only raise the grant flag for a candidate that the main loop tries as well. -/
theorem tryStickyRouteSelection_cases (catalog : GatewayCatalogSnapshot) (request : RoutePlanRequest)
    (context : RouteCandidateContext) (candidates : List RoutingGroupTargetConfig) :
    (∃ candidate ∈ candidates, ∃ target endpoint summary,
      catalog.evaluateCandidate candidate context = .selected target endpoint ∧
      (catalog.tryStickyRouteSelection request context candidates ⟨[], false⟩).1 =
        .selected (routeSelection context target endpoint summary true none)) ∨
    (∀ selection, (catalog.tryStickyRouteSelection request context candidates ⟨[], false⟩).1 ≠ .selected selection) ∧
      ((catalog.tryStickyRouteSelection request context candidates ⟨[], false⟩).2.providerGrantDenied = true →
        ∃ candidate ∈ candidates, catalog.evaluateCandidate candidate context = .filtered .providerGrantDenied) := by
  unfold GatewayCatalogSnapshot.tryStickyRouteSelection
  split
  · exact .inr ⟨by simp, by simp⟩
  split
  · exact .inr ⟨by simp, by simp⟩
  split
  · exact .inr ⟨by simp, by simp⟩
  split
  · exact .inr ⟨by simp, by simp⟩
  rename_i candidate hfind
  have hmem := List.mem_of_find?_eq_some hfind
  split
  · rename_i target endpoint heval
    split
    · exact .inl ⟨candidate, hmem, target, endpoint, _, heval, rfl⟩
    · exact .inr ⟨by simp, by simp⟩
  · rename_i reason heval
    refine .inr ⟨by simp, fun hflag => ⟨candidate, hmem, ?_⟩⟩
    rcases (PlanEvidence.reject_providerGrantDenied _ _).mp hflag with hreason | hbase
    · rw [heval, hreason]
    · cases hbase

end Loop

/-- The alias that the request names, its policy and its group, all of them in force. -/
structure Resolves (catalog : GatewayCatalogSnapshot) (request : RoutePlanRequest) (binding : RouteBinding) :
    Prop where
  alias_resolved : catalog.resolveAlias request.actor request.aliasName = .ok binding.modelAlias
  alias_protocol : binding.modelAlias.protocolFamily = request.protocolFamily
  alias_active : binding.modelAlias.status = .active
  policy_listed : binding.policy ∈ catalog.routePolicies
  policy_bound : binding.policy.routePolicyId = binding.modelAlias.routePolicyId
  policy_active : binding.policy.status = .active
  group_listed : binding.group ∈ catalog.routingGroups
  group_bound : binding.group.routingGroupId = binding.policy.routingGroupId
  group_active : binding.group.status = .active

theorem resolveRouteBinding_resolves {catalog : GatewayCatalogSnapshot} {request : RoutePlanRequest}
    {modelAlias : ModelAliasConfig} {policy : RoutePolicyConfig} {group : RoutingGroupConfig}
    (h : catalog.resolveRouteBinding request = .ok (modelAlias, policy, group)) :
    Resolves catalog request ⟨modelAlias, policy, group⟩ := by
  unfold GatewayCatalogSnapshot.resolveRouteBinding at h
  obtain ⟨resolved, halias, h⟩ := bind_ok.mp h
  split at h
  · cases h
  rename_i hprotocol
  split at h
  · cases h
  rename_i hactive
  split at h
  · cases h
  rename_i foundPolicy hpolicy
  split at h
  · cases h
  rename_i hpolicyActive
  split at h
  · cases h
  rename_i foundGroup hgroup
  split at h
  · cases h
  rename_i hgroupActive
  cases h
  exact ⟨halias, by simpa using hprotocol, by simpa using hactive, List.mem_of_find?_eq_some hpolicy,
    by simpa using List.find?_some hpolicy, by simpa using hpolicyActive, List.mem_of_find?_eq_some hgroup,
    by simpa using List.find?_some hgroup, by simpa using hgroupActive⟩

theorem Resolves.unique {parseUri : String → Except String ParsedUri} {catalog : GatewayCatalogSnapshot}
    {request : RoutePlanRequest} {binding other : RouteBinding} (hvalid : catalog.validate parseUri = .ok ())
    (h : Resolves catalog request binding) (ho : Resolves catalog request other) : other = binding := by
  obtain ⟨indexes⟩ := GatewayCatalogSnapshot.validate_indexes hvalid
  have halias : other.modelAlias = binding.modelAlias :=
    Except.ok.inj (ho.alias_resolved.symm.trans h.alias_resolved)
  have hpolicy : other.policy = binding.policy :=
    indexBy_unique indexes.policies_ok ho.policy_listed h.policy_listed
      (by rw [ho.policy_bound, h.policy_bound, halias])
  have hgroup : other.group = binding.group :=
    indexBy_unique indexes.groups_ok ho.group_listed h.group_listed (by rw [ho.group_bound, h.group_bound, hpolicy])
  cases other
  cases binding
  cases halias
  cases hpolicy
  cases hgroup
  rfl

def GatewayCatalogSnapshot.entriesOf (catalog : GatewayCatalogSnapshot) (binding : RouteBinding) :
    List RoutingGroupTargetConfig :=
  catalog.routingGroupTargets.filter (fun entry => entry.routingGroupId == binding.group.routingGroupId)

section Planning

variable {catalog : GatewayCatalogSnapshot} {request : RoutePlanRequest} {binding : RouteBinding}
  {context : RouteCandidateContext} {plan : RoutePlan}

theorem mem_groupCandidates (binding : RouteBinding) (entry : RoutingGroupTargetConfig) :
    entry ∈ catalog.groupCandidates binding.group ↔ entry ∈ catalog.entriesOf binding :=
  mem_sortBy

theorem finish_outcome (h : ContextOf catalog request binding context) (evidence : PlanEvidence)
    (stickyMissReason : Option String)
    (hflag : evidence.providerGrantDenied = true → ∃ candidate ∈ catalog.groupCandidates binding.group,
      catalog.evaluateCandidate candidate context = .filtered .providerGrantDenied)
    (hplan : plan = GatewayCatalogSnapshot.planRuntimeRouteWithHotState.finish catalog context
      (catalog.groupCandidates binding.group) evidence stickyMissReason) :
    (∃ entry ∈ catalog.entriesOf binding, ∃ target endpoint summary,
      Eligible catalog request binding entry target endpoint ∧
      plan.outcome = .selected (routeSelection context target endpoint summary false stickyMissReason) ∧
      ∀ earlier ∈ catalog.entriesOf binding, candidateOrder earlier entry = .lt →
        ∀ target endpoint, ¬ Eligible catalog request binding earlier target endpoint) ∨
    (∀ selection, plan.outcome ≠ .selected selection) ∧
      (∀ entry ∈ catalog.entriesOf binding, ∀ target endpoint,
        ¬ Eligible catalog request binding entry target endpoint) ∧
      (plan.outcome = .providerGrantDenied ↔ ∃ entry ∈ catalog.entriesOf binding, ∃ target endpoint,
        OnlyGrantDenied catalog request binding entry target endpoint) := by
  unfold GatewayCatalogSnapshot.planRuntimeRouteWithHotState.finish at hplan
  split at hplan
  · rename_i selection final hloop
    obtain ⟨before, entry, after, target, endpoint, summary, hsplit, hbefore, hchosen, hselection⟩ :=
      firstEligibleRouteSelection_some (congrArg Prod.fst hloop)
    left
    refine ⟨entry, ?_, target, endpoint, summary, (evaluateCandidate_selected h).mp hchosen, ?_, ?_⟩
    · rw [← mem_groupCandidates, hsplit]
      simp
    · rw [hplan, hselection]
    · intro earlier hearlier hlt
      obtain ⟨reason, hreason⟩ := hbefore earlier (mem_before hsplit hearlier hlt)
      exact not_eligible_of_filtered h hreason
  · rename_i final hloop
    obtain ⟨hall, hdenied⟩ := firstEligibleRouteSelection_none (congrArg Prod.fst hloop)
    rw [hloop] at hdenied
    have hexact : final.providerGrantDenied = true ↔ ∃ entry ∈ catalog.entriesOf binding, ∃ target endpoint,
        OnlyGrantDenied catalog request binding entry target endpoint := by
      simp only [hdenied, ← evaluateCandidate_providerGrantDenied h, ← mem_groupCandidates]
      exact ⟨fun hor => hor.elim hflag id, .inr⟩
    refine .inr ⟨?_, ?_, ?_⟩
    · intro selection
      rw [hplan]
      split <;> simp
    · intro entry hentry
      obtain ⟨reason, hreason⟩ := hall entry ((mem_groupCandidates binding entry).mpr hentry)
      exact not_eligible_of_filtered h hreason
    · rw [hplan, ← hexact]
      cases final.providerGrantDenied <;> simp

theorem planRuntimeRouteWithHotState_cases (hplan : catalog.planRuntimeRouteWithHotState request = .ok plan) :
    ∃ binding context, Resolves catalog request binding ∧ ContextOf catalog request binding context ∧
      ((∃ entry ∈ catalog.entriesOf binding, ∃ target endpoint summary,
        Eligible catalog request binding entry target endpoint ∧
        plan.outcome = .selected (routeSelection context target endpoint summary true none)) ∨
      ∃ evidence stickyMissReason,
        (evidence.providerGrantDenied = true → ∃ candidate ∈ catalog.groupCandidates binding.group,
          catalog.evaluateCandidate candidate context = .filtered .providerGrantDenied) ∧
        plan = GatewayCatalogSnapshot.planRuntimeRouteWithHotState.finish catalog context
          (catalog.groupCandidates binding.group) evidence stickyMissReason) := by
  unfold GatewayCatalogSnapshot.planRuntimeRouteWithHotState at hplan
  obtain ⟨⟨modelAlias, policy, group⟩, hbinding, hplan⟩ := bind_ok.mp hplan
  obtain ⟨endpoints, hendpoints, hplan⟩ := bind_ok.mp hplan
  obtain ⟨credentials, hcredentials, hplan⟩ := bind_ok.mp hplan
  obtain ⟨targets, htargets, hplan⟩ := bind_ok.mp hplan
  simp only at hplan
  set context := request.candidateContext modelAlias policy group endpoints credentials targets
  have hcontext : ContextOf catalog request ⟨modelAlias, policy, group⟩ context :=
    ⟨rfl, rfl, rfl, rfl, rfl, rfl, hendpoints, hcredentials, htargets, rfl, rfl, rfl⟩
  refine ⟨⟨modelAlias, policy, group⟩, context, resolveRouteBinding_resolves hbinding, hcontext, ?_⟩
  rcases tryStickyRouteSelection_cases catalog request context (catalog.groupCandidates group) with
    ⟨entry, hentry, target, endpoint, summary, heval, hselected⟩ | ⟨hmiss, hflag⟩
  · left
    refine ⟨entry, (mem_groupCandidates ⟨modelAlias, policy, group⟩ entry).mp hentry, target, endpoint, summary,
      (evaluateCandidate_selected hcontext).mp heval, ?_⟩
    split at hplan
    · rename_i selection evidence hresult
      rw [hresult] at hselected
      rw [← Except.ok.inj hplan, StickyRouteSelection.selected.inj hselected]
    · rename_i reason evidence hresult
      rw [hresult] at hselected
      cases hselected
    · rename_i evidence hresult
      rw [hresult] at hselected
      cases hselected
  · right
    split at hplan
    · rename_i selection evidence hresult
      exact absurd (congrArg Prod.fst hresult) (hmiss selection)
    · rename_i reason evidence hresult
      rw [hresult] at hflag
      exact ⟨evidence, reason, hflag, (Except.ok.inj hplan).symm⟩
    · rename_i evidence hresult
      rw [hresult] at hflag
      exact ⟨evidence, none, hflag, (Except.ok.inj hplan).symm⟩

/-- Planning selects the first entry of the bound group that passes every test, unless the sticky route is used. -/
theorem planRuntimeRouteWithHotState_outcome (parseUri : String → Except String ParsedUri)
    (catalog : GatewayCatalogSnapshot) (request : RoutePlanRequest) (plan : RoutePlan)
    (hvalid : catalog.validate parseUri = .ok ()) (hplan : catalog.planRuntimeRouteWithHotState request = .ok plan) :
    ∃ binding, (Resolves catalog request binding ∧ ∀ other, Resolves catalog request other → other = binding) ∧
      (∀ selection, plan.outcome = .selected selection → selection.stickyHit = false →
        ∃ entry ∈ catalog.entriesOf binding, ∃ target endpoint,
          Eligible catalog request binding entry target endpoint ∧
          selection.modelTargetId = target.modelTargetId ∧ selection.upstreamModelId = target.upstreamModelId ∧
          selection.upstreamCredentialId = target.upstreamCredentialId ∧ selection.providerEndpoint = endpoint ∧
          selection.routingGroupId = binding.group.routingGroupId ∧
          selection.routePolicyId = binding.policy.routePolicyId ∧
          selection.modelAliasId = binding.modelAlias.modelAliasId ∧
          ∀ earlier ∈ catalog.entriesOf binding, candidateOrder earlier entry = .lt →
            ∀ target endpoint, ¬ Eligible catalog request binding earlier target endpoint) ∧
      ((∀ selection, plan.outcome ≠ .selected selection) →
        (∀ entry ∈ catalog.entriesOf binding, ∀ target endpoint,
          ¬ Eligible catalog request binding entry target endpoint) ∧
        (plan.outcome = .providerGrantDenied ↔ ∃ entry ∈ catalog.entriesOf binding, ∃ target endpoint,
          OnlyGrantDenied catalog request binding entry target endpoint)) := by
  obtain ⟨binding, context, hresolves, hcontext, hcases⟩ := planRuntimeRouteWithHotState_cases hplan
  refine ⟨binding, ⟨hresolves, fun other ho => hresolves.unique hvalid ho⟩, ?_⟩
  rcases hcases with ⟨entry, hentry, target, endpoint, summary, helig, hselected⟩ |
    ⟨evidence, stickyMissReason, hflag, hfinish⟩
  · constructor
    · intro selection hsel hhit
      rw [hselected, RoutePlanOutcome.selected.injEq] at hsel
      rw [← hsel] at hhit
      cases hhit
    · intro hnone
      exact absurd hselected (hnone _)
  · rcases finish_outcome hcontext evidence stickyMissReason hflag hfinish with
      ⟨entry, hentry, target, endpoint, summary, helig, hselected, hearlier⟩ | ⟨hnone, hall, hdenied⟩
    · constructor
      · intro selection hsel _
        rw [hselected, RoutePlanOutcome.selected.injEq] at hsel
        subst hsel
        refine ⟨entry, hentry, target, endpoint, helig, rfl, rfl, rfl, rfl, ?_, ?_, ?_, hearlier⟩
        · exact congrArg RoutingGroupConfig.routingGroupId hcontext.group
        · exact congrArg RoutePolicyConfig.routePolicyId hcontext.policy
        · exact congrArg ModelAliasConfig.modelAliasId hcontext.modelAlias
      · intro hnone
        exact absurd hselected (hnone _)
    · constructor
      · intro selection hsel
        exact absurd hsel (hnone selection)
      · intro _
        exact ⟨hall, hdenied⟩

/-- Reads the two schemes that the gateway accepts. -/
def httpUri (uri : String) : Except String ParsedUri :=
  if "https://".toList.isPrefixOf uri.toList then .ok ⟨some "https", true⟩
  else if "http://".toList.isPrefixOf uri.toList then .ok ⟨some "http", true⟩
  else .error "invalid format"

def twoEndpointCatalog : GatewayCatalogSnapshot where
  providerEndpoints := [⟨"ep_a", "tenant_1", "A", "openai", [.openAiResponses], "https://a.example", .active⟩,
    ⟨"ep_b", "tenant_1", "B", "openai", [.openAiResponses], "https://b.example", .active⟩]
  upstreamCredentials := [⟨"cred_a", "tenant_1", "ep_a", "api_key", "sec_a", .active⟩]
  modelTargets := [⟨"target_a", "tenant_1", "ep_a", some "cred_a", .openAiResponses, "model-a", none, .active, true⟩,
    ⟨"target_b", "tenant_1", "ep_b", none, .openAiResponses, "model-b", none, .active, true⟩]
  modelAliases := [⟨"alias_1", "tenant_1", none, none, "chat", .openAiResponses, "policy_1", .active⟩]
  routingGroups := [⟨"group_1", "tenant_1", .active⟩]
  routingGroupTargets := [⟨"entry_b", "group_1", "target_b", 1, 2, .active⟩,
    ⟨"entry_a", "group_1", "target_a", 1, 1, .active⟩]
  routePolicies := [⟨"policy_1", "tenant_1", "alias_1", "group_1", .active, none⟩]
  providerGrants := ["ep_a", "ep_b"].map fun endpoint =>
    { providerGrantId := endpoint, tenantId := "tenant_1", providerEndpointId := endpoint, status := .active }

def drainedRequest : RoutePlanRequest where
  actor := tenantActor
  protocolFamily := .openAiResponses
  aliasName := "chat"
  streaming := true
  hotState := { nullRouteHotState with endpointIsDrained := fun _ endpoint _ _ => endpoint == "ep_a" }
  configVersion := some 1
  now := ⟨0⟩
  routeAffinityHash := none

theorem planRuntimeRouteWithHotState_outcome_drained :
    twoEndpointCatalog.validate httpUri = .ok () ∧
    ∃ binding, Resolves twoEndpointCatalog drainedRequest binding ∧
      ∃ entry ∈ twoEndpointCatalog.entriesOf binding, ∃ target endpoint,
        Eligible twoEndpointCatalog drainedRequest binding entry target endpoint ∧
        target.modelTargetId = "target_b" ∧ endpoint.providerEndpointId = "ep_b" := by
  have hvalid : twoEndpointCatalog.validate httpUri = .ok () := by rfl
  have hplan : twoEndpointCatalog.planRuntimeRouteWithHotState drainedRequest =
      .ok ⟨.selected ⟨"alias_1", "chat", "policy_1", "group_1", "target_b", "model-b", none,
        ⟨"ep_b", "tenant_1", "B", "openai", [.openAiResponses], "https://b.example", .active⟩, none,
        [⟨.endpointDrained, 1⟩], false, none, none⟩, [⟨.endpointDrained, 1⟩]⟩ := by rfl
  refine ⟨hvalid, ?_⟩
  obtain ⟨binding, ⟨hresolves, -⟩, hselected, -⟩ :=
    planRuntimeRouteWithHotState_outcome httpUri twoEndpointCatalog drainedRequest _ hvalid hplan
  obtain ⟨entry, hentry, target, endpoint, helig, htarget, -, -, hendpoint, -⟩ := hselected _ rfl rfl
  exact ⟨binding, hresolves, entry, hentry, target, endpoint, helig, htarget.symm, by rw [← hendpoint]⟩

end Planning

end Starweaver.Gateway
