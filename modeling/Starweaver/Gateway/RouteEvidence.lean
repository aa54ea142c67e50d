import Mathlib.Data.Finset.Card
import Mathlib.Data.Finset.Range
import Mathlib.Data.List.Range
import Mathlib.Data.List.TakeWhile
import Starweaver.Gateway.StickyRouting

namespace Starweaver.Gateway

open Library.Checks

def filteredCount (summary : List RouteFilterSummary) : Nat := (summary.map (·.count)).sum

theorem filteredCount_addFilterReason (summary : List RouteFilterSummary) (reason : RouteFilterReason) :
    filteredCount (addFilterReason summary reason) = filteredCount summary + 1 := by
  induction summary with
  | nil => rfl
  | cons entry summary ih =>
    unfold filteredCount at ih ⊢
    rw [addFilterReason]
    split
    · simp only [List.map_cons, List.sum_cons]
      omega
    · simp only [List.map_cons, List.sum_cons, ih]
      omega

/-- The entry whose target the sticky pass evaluates, by its place among the candidates. -/
def stickyPosition (request : RoutePlanRequest) (context : RouteCandidateContext)
    (candidates : List RoutingGroupTargetConfig) : Option Nat :=
  match request.routeAffinityHash with
  | none => none
  | some affinityHash =>
    match stickyRouteForPolicy context.policy request context.modelAlias affinityHash with
    | none => none
    | some sticky =>
      if sticky.routingGroupId ≠ context.group.routingGroupId then none
      else candidates.findIdx? (fun candidate => candidate.modelTargetId == sticky.modelTargetId)

namespace GatewayCatalogSnapshot

variable (catalog : GatewayCatalogSnapshot)

/-- What a plan is made from: the context of the binding and the entries of its group, in the order they are tried. -/
def planning (request : RoutePlanRequest) : Result (RouteCandidateContext × List RoutingGroupTargetConfig) := do
  let (modelAlias, policy, group) ← catalog.resolveRouteBinding request
  let endpoints ← indexEndpoints catalog.providerEndpoints
  let credentials ← indexCredentials catalog.upstreamCredentials
  let targets ← indexTargets catalog.modelTargets
  .ok (request.candidateContext modelAlias policy group endpoints credentials targets, catalog.groupCandidates group)

def rejects (context : RouteCandidateContext) (candidate : RoutingGroupTargetConfig) : Bool :=
  !(catalog.evaluateCandidate candidate context).isSelected

def rejectsAt (context : RouteCandidateContext) (candidates : List RoutingGroupTargetConfig) (position : Nat) : Bool :=
  (candidates[position]?).any (catalog.rejects context)

/-- The entries the ordinary pass evaluates, the first of `candidates` standing at `position`. -/
def ordinaryPositions (context : RouteCandidateContext) : List RoutingGroupTargetConfig → Nat → List Nat
  | [], _ => []
  | candidate :: candidates, position =>
    match catalog.evaluateCandidate candidate context with
    | .selected _ _ => [position]
    | .filtered _ => position :: ordinaryPositions context candidates (position + 1)

/-- Every evaluation of a plan, in its order. -/
def planPositions (request : RoutePlanRequest) (context : RouteCandidateContext)
    (candidates : List RoutingGroupTargetConfig) : List Nat :=
  (stickyPosition request context candidates).toList ++
    match (catalog.tryStickyRouteSelection request context candidates ⟨[], false⟩).1 with
    | .selected _ => []
    | .miss _ | .unavailable => catalog.ordinaryPositions context candidates 0

def rejectedEntries (request : RoutePlanRequest) (context : RouteCandidateContext)
    (candidates : List RoutingGroupTargetConfig) : Finset Nat :=
  ((catalog.planPositions request context candidates).filter (catalog.rejectsAt context candidates)).toFinset

/-- The evidence of `plan` counts every rejected entry once, and every entry of the group where none is selected. -/
def CountsEachOnce (request : RoutePlanRequest) (plan : RoutePlan) : Prop :=
  ∃ context candidates, catalog.planning request = .ok (context, candidates) ∧
    filteredCount plan.filteredSummary = (catalog.rejectedEntries request context candidates).card ∧
    ((∀ selection, plan.outcome ≠ .selected selection) → filteredCount plan.filteredSummary = candidates.length)

/-- The sticky record leads to a rejected entry, with rejected entries only before it. -/
def StickyReachedAgain (request : RoutePlanRequest) : Prop :=
  ∃ context candidates position, catalog.planning request = .ok (context, candidates) ∧
    stickyPosition request context candidates = some position ∧
    ∀ earlier ≤ position, catalog.rejectsAt context candidates earlier = true

end GatewayCatalogSnapshot

section Passes

variable {catalog : GatewayCatalogSnapshot} {context : RouteCandidateContext}

theorem rejects_filtered {candidate : RoutingGroupTargetConfig} {reason : RouteFilterReason}
    (heval : catalog.evaluateCandidate candidate context = .filtered reason) :
    catalog.rejects context candidate = true := by
  rw [GatewayCatalogSnapshot.rejects, heval]
  rfl

theorem rejects_selected {candidate : RoutingGroupTargetConfig} {target : ModelTargetConfig}
    {endpoint : ProviderEndpoint} (heval : catalog.evaluateCandidate candidate context = .selected target endpoint) :
    catalog.rejects context candidate = false := by
  rw [GatewayCatalogSnapshot.rejects, heval]
  rfl

theorem rejectsAt_length (before candidates : List RoutingGroupTargetConfig) (candidate : RoutingGroupTargetConfig) :
    catalog.rejectsAt context (before ++ candidate :: candidates) before.length = catalog.rejects context candidate := by
  simp [GatewayCatalogSnapshot.rejectsAt]

/-- The rejected entries of the ordinary pass are those before the first one that can be used. -/
theorem filter_ordinaryPositions (before candidates : List RoutingGroupTargetConfig) :
    (catalog.ordinaryPositions context candidates before.length).filter
        (catalog.rejectsAt context (before ++ candidates)) =
      List.range' before.length (candidates.takeWhile (catalog.rejects context)).length := by
  induction candidates generalizing before with
  | nil => rfl
  | cons candidate candidates ih =>
    rw [GatewayCatalogSnapshot.ordinaryPositions]
    cases heval : catalog.evaluateCandidate candidate context with
    | selected target endpoint =>
      have hrejects := rejects_selected heval
      simp [rejectsAt_length, hrejects]
    | filtered reason =>
      have hrejects := rejects_filtered heval
      have hrest := ih (before ++ [candidate])
      simp only [List.length_append, List.length_singleton, List.append_assoc, List.singleton_append] at hrest
      simp only [List.filter_cons, rejectsAt_length, hrejects, if_true, List.takeWhile_cons, List.length_cons,
        List.range'_succ, hrest]

theorem filteredCount_firstEligible (stickyMissReason : Option String) (candidates : List RoutingGroupTargetConfig)
    (evidence : PlanEvidence) :
    filteredCount (catalog.firstEligibleRouteSelection context stickyMissReason candidates evidence).2.filteredSummary =
      filteredCount evidence.filteredSummary + (candidates.takeWhile (catalog.rejects context)).length := by
  induction candidates generalizing evidence with
  | nil => rfl
  | cons candidate candidates ih =>
    rw [GatewayCatalogSnapshot.firstEligibleRouteSelection, List.takeWhile_cons]
    cases heval : catalog.evaluateCandidate candidate context with
    | selected target endpoint => simp [rejects_selected heval]
    | filtered reason =>
      simp only [rejects_filtered heval, if_true, List.length_cons, ih, PlanEvidence.reject,
        filteredCount_addFilterReason]
      omega

theorem filteredSummary_finish (candidates : List RoutingGroupTargetConfig) (evidence : PlanEvidence)
    (stickyMissReason : Option String) :
    (GatewayCatalogSnapshot.planRuntimeRouteWithHotState.finish catalog context candidates evidence
        stickyMissReason).filteredSummary =
      (catalog.firstEligibleRouteSelection context stickyMissReason candidates evidence).2.filteredSummary := by
  unfold GatewayCatalogSnapshot.planRuntimeRouteWithHotState.finish
  split
  · rename_i hloop
    rw [hloop]
  · rename_i hloop
    rw [hloop]
    split <;> rfl

/-- A group from which nothing is selected has been rejected as a whole. -/
theorem takeWhile_of_not_selected {candidates : List RoutingGroupTargetConfig} {evidence : PlanEvidence}
    {stickyMissReason : Option String}
    (hnone : ∀ selection, (GatewayCatalogSnapshot.planRuntimeRouteWithHotState.finish catalog context candidates evidence
      stickyMissReason).outcome ≠ .selected selection) :
    candidates.takeWhile (catalog.rejects context) = candidates := by
  rw [List.takeWhile_eq_self_iff]
  intro candidate hcandidate
  unfold GatewayCatalogSnapshot.planRuntimeRouteWithHotState.finish at hnone
  split at hnone
  · exact (hnone _ rfl).elim
  · rename_i hloop
    obtain ⟨reason, heval⟩ := (firstEligibleRouteSelection_none (congrArg Prod.fst hloop)).1 candidate hcandidate
    exact rejects_filtered heval

/-- What the sticky pass leaves: a route it took, or the evidence of the entry it rejected. -/
theorem tryStickyRouteSelection_count (catalog : GatewayCatalogSnapshot) (request : RoutePlanRequest)
    (context : RouteCandidateContext) (candidates : List RoutingGroupTargetConfig) :
    filteredCount (catalog.tryStickyRouteSelection request context candidates ⟨[], false⟩).2.filteredSummary =
        ((stickyPosition request context candidates).toList.filter (catalog.rejectsAt context candidates)).length ∧
      ∀ selection, (catalog.tryStickyRouteSelection request context candidates ⟨[], false⟩).1 = .selected selection →
        (stickyPosition request context candidates).toList.filter (catalog.rejectsAt context candidates) = [] := by
  unfold GatewayCatalogSnapshot.tryStickyRouteSelection stickyPosition
  cases request.routeAffinityHash with
  | none => exact ⟨rfl, fun _ _ => rfl⟩
  | some affinityHash =>
    simp only
    cases stickyRouteForPolicy context.policy request context.modelAlias affinityHash with
    | none => exact ⟨rfl, fun _ _ => rfl⟩
    | some sticky =>
      simp only
      split
      · exact ⟨rfl, fun _ _ => rfl⟩
      cases hfound : candidates.find? (fun candidate => candidate.modelTargetId == sticky.modelTargetId) with
      | none =>
        have hposition : candidates.findIdx? (fun candidate => candidate.modelTargetId == sticky.modelTargetId) = none := by
          rw [List.findIdx?_eq_none_iff]
          simpa using List.find?_eq_none.mp hfound
        rw [hposition]
        exact ⟨rfl, fun _ _ => rfl⟩
      | some candidate =>
        obtain ⟨htarget, before, after, rfl, hbefore⟩ := List.find?_eq_some_iff_append.mp hfound
        have hposition : (before ++ candidate :: after).findIdx?
            (fun candidate => candidate.modelTargetId == sticky.modelTargetId) = some before.length := by
          rw [List.findIdx?_append]
          have hnone : before.findIdx? (fun candidate => candidate.modelTargetId == sticky.modelTargetId) = none := by
            rw [List.findIdx?_eq_none_iff]
            simpa using hbefore
          simp [hnone, List.findIdx?_cons, htarget]
        simp only [hposition, Option.toList_some, List.filter_cons, rejectsAt_length, List.filter_nil]
        cases heval : catalog.evaluateCandidate candidate context with
        | selected target endpoint =>
          simp only [rejects_selected heval]
          split <;> exact ⟨rfl, fun _ _ => rfl⟩
        | filtered reason =>
          simp only [rejects_filtered heval, PlanEvidence.reject, filteredCount_addFilterReason]
          exact ⟨rfl, fun _ h => by cases h⟩

theorem rejectsAt_lt_iff (candidates : List RoutingGroupTargetConfig) (position : Nat) :
    position < (candidates.takeWhile (catalog.rejects context)).length ↔
      ∀ earlier ≤ position, catalog.rejectsAt context candidates earlier = true := by
  induction candidates generalizing position with
  | nil =>
    simp only [List.takeWhile_nil, List.length_nil, Nat.not_lt_zero, false_iff]
    intro hall
    cases hall position le_rfl
  | cons candidate candidates ih =>
    rw [List.takeWhile_cons]
    cases hrejects : catalog.rejects context candidate with
    | false =>
      simp only [Bool.false_eq_true, if_false, List.length_nil, Nat.not_lt_zero, false_iff]
      intro hall
      have hfirst := hall 0 (Nat.zero_le _)
      rw [show catalog.rejectsAt context (candidate :: candidates) 0 = catalog.rejects context candidate from rfl,
        hrejects] at hfirst
      cases hfirst
    | true =>
      have hfirst : catalog.rejectsAt context (candidate :: candidates) 0 = true := hrejects
      have hnext (earlier : Nat) : catalog.rejectsAt context (candidate :: candidates) (earlier + 1) =
          catalog.rejectsAt context candidates earlier := by
        simp [GatewayCatalogSnapshot.rejectsAt]
      cases position with
      | zero => simp [hfirst]
      | succ position =>
        simp only [if_true, List.length_cons, Nat.add_lt_add_iff_right, ih position]
        constructor
        · rintro hall (_ | earlier) hearlier
          · exact hfirst
          · rw [hnext]
            exact hall earlier (by omega)
        · intro hall earlier hearlier
          rw [← hnext]
          exact hall (earlier + 1) (by omega)

/-- The rejections of the two passes, those of the ordinary pass being the first `loop` entries. -/
theorem card_rejections (sticky : List Nat) (hsticky : sticky.length ≤ 1) (loop : Nat) :
    sticky.length + loop = (sticky ++ List.range loop).toFinset.card ↔ ∀ position ∈ sticky, loop ≤ position := by
  have hrange : (List.range loop).toFinset = Finset.range loop := by
    ext position
    simp
  match sticky, hsticky with
  | [], _ => simp [hrange]
  | [position], _ =>
    have hcard : (position :: List.range loop).toFinset.card = (insert position (Finset.range loop)).card := by
      rw [List.toFinset_cons, hrange]
    simp only [List.length_singleton, List.singleton_append, hcard, List.mem_singleton, forall_eq]
    by_cases hlt : position < loop
    · rw [Finset.insert_eq_of_mem (Finset.mem_range.mpr hlt), Finset.card_range]
      omega
    · rw [Finset.card_insert_of_notMem (by simpa using hlt), Finset.card_range]
      omega

theorem planning_ok {request : RoutePlanRequest} {plan : RoutePlan}
    (hplan : catalog.planRuntimeRouteWithHotState request = .ok plan) :
    ∃ context candidates, catalog.planning request = .ok (context, candidates) ∧
      ((∃ selection evidence, catalog.tryStickyRouteSelection request context candidates ⟨[], false⟩ =
          (.selected selection, evidence) ∧ plan = ⟨.selected selection, evidence.filteredSummary⟩) ∨
        ∃ stickyMissReason, (∀ selection,
            (catalog.tryStickyRouteSelection request context candidates ⟨[], false⟩).1 ≠ .selected selection) ∧
          plan = GatewayCatalogSnapshot.planRuntimeRouteWithHotState.finish catalog context candidates
            (catalog.tryStickyRouteSelection request context candidates ⟨[], false⟩).2 stickyMissReason) := by
  unfold GatewayCatalogSnapshot.planRuntimeRouteWithHotState at hplan
  obtain ⟨⟨modelAlias, policy, group⟩, hbinding, hplan⟩ := bind_ok.mp hplan
  obtain ⟨endpoints, hendpoints, hplan⟩ := bind_ok.mp hplan
  obtain ⟨credentials, hcredentials, hplan⟩ := bind_ok.mp hplan
  obtain ⟨targets, htargets, hplan⟩ := bind_ok.mp hplan
  simp only at hplan
  refine ⟨request.candidateContext modelAlias policy group endpoints credentials targets,
    catalog.groupCandidates group, ?_, ?_⟩
  · simp only [GatewayCatalogSnapshot.planning, hbinding, hendpoints, hcredentials, htargets, bind, Except.bind]
  · split at hplan
    · rename_i selection evidence hsticky
      exact .inl ⟨selection, evidence, hsticky, (Except.ok.inj hplan).symm⟩
    · rename_i stickyMissReason evidence hsticky
      rw [hsticky]
      exact .inr ⟨stickyMissReason, by simp, (Except.ok.inj hplan).symm⟩
    · rename_i evidence hsticky
      rw [hsticky]
      exact .inr ⟨none, by simp, (Except.ok.inj hplan).symm⟩

theorem stickyPosition_lt {request : RoutePlanRequest} {candidates : List RoutingGroupTargetConfig} {position : Nat}
    (hposition : stickyPosition request context candidates = some position) : position < candidates.length := by
  unfold stickyPosition at hposition
  split at hposition
  · cases hposition
  split at hposition
  · cases hposition
  split at hposition
  · cases hposition
  · exact (List.findIdx?_eq_some_iff_getElem.mp hposition).choose

/-- After a sticky miss the evidence is right unless the ordinary pass comes to the rejected sticky entry again. -/
theorem finish_countsOnce_iff {request : RoutePlanRequest} {candidates : List RoutingGroupTargetConfig}
    (stickyMissReason : Option String)
    (hmiss : ∀ selection,
      (catalog.tryStickyRouteSelection request context candidates ⟨[], false⟩).1 ≠ .selected selection)
    {plan : RoutePlan} (hplan : plan = GatewayCatalogSnapshot.planRuntimeRouteWithHotState.finish catalog context
      candidates (catalog.tryStickyRouteSelection request context candidates ⟨[], false⟩).2 stickyMissReason) :
    (filteredCount plan.filteredSummary = (catalog.rejectedEntries request context candidates).card ∧
      ((∀ selection, plan.outcome ≠ .selected selection) →
        filteredCount plan.filteredSummary = candidates.length)) ↔
      ¬ ∃ position, stickyPosition request context candidates = some position ∧
        ∀ earlier ≤ position, catalog.rejectsAt context candidates earlier = true := by
  set sticky := (stickyPosition request context candidates).toList.filter (catalog.rejectsAt context candidates)
    with hsticky
  set loop := (candidates.takeWhile (catalog.rejects context)).length with hloop
  have hlength : sticky.length ≤ 1 := by
    refine (List.length_filter_le _ _).trans ?_
    cases stickyPosition request context candidates <;> simp
  have hcount : filteredCount plan.filteredSummary = sticky.length + loop := by
    rw [hplan, filteredSummary_finish, filteredCount_firstEligible,
      (tryStickyRouteSelection_count catalog request context candidates).1]
  have hentries : catalog.rejectedEntries request context candidates = (sticky ++ List.range loop).toFinset := by
    have hordinary : (catalog.ordinaryPositions context candidates 0).filter (catalog.rejectsAt context candidates) =
        List.range loop := by
      rw [List.range_eq_range']
      exact filter_ordinaryPositions [] candidates
    unfold GatewayCatalogSnapshot.rejectedEntries GatewayCatalogSnapshot.planPositions
    rw [List.filter_append, ← hsticky]
    split
    · rename_i selection hselected
      exact (hmiss selection hselected).elim
    · rw [hordinary]
    · rw [hordinary]
  have hagain : (∀ position ∈ sticky, loop ≤ position) ↔
      ¬ ∃ position, stickyPosition request context candidates = some position ∧
        ∀ earlier ≤ position, catalog.rejectsAt context candidates earlier = true := by
    simp only [← rejectsAt_lt_iff, ← hloop, not_exists, not_and, Nat.not_lt]
    simp only [hsticky, List.mem_filter, Option.mem_toList, and_imp]
    refine forall_congr' fun position => forall_congr' fun hposition => ?_
    refine ⟨fun hreached => ?_, fun hreached _ => hreached⟩
    by_contra hlt
    exact hlt (hreached ((rejectsAt_lt_iff candidates position).mp (Nat.lt_of_not_le hlt) position le_rfl))
  rw [hcount, hentries, card_rejections sticky hlength loop, hagain]
  refine ⟨And.left, fun hnot => ⟨hnot, fun hnone => ?_⟩⟩
  -- Nothing was selected: the ordinary pass went through the whole group, past any sticky entry.
  have hwhole : loop = candidates.length := by
    rw [hloop, takeWhile_of_not_selected (hplan ▸ hnone)]
  have hempty : sticky = [] := by
    rw [List.eq_nil_iff_forall_not_mem]
    intro position hmem
    have hposition : stickyPosition request context candidates = some position := by
      simpa using (List.mem_filter.mp hmem).1
    have hlt := stickyPosition_lt hposition
    have hle := hagain.mpr hnot position hmem
    omega
  rw [hempty, List.length_nil, Nat.zero_add, hwhole]

end Passes

/-- Evidence counts a rejected entry once, unless the sticky pass rejected it before the ordinary pass comes to it. -/
theorem plan_countsEachOnce_iff (catalog : GatewayCatalogSnapshot) (request : RoutePlanRequest) (plan : RoutePlan)
    (hplan : catalog.planRuntimeRouteWithHotState request = .ok plan) :
    catalog.CountsEachOnce request plan ↔ ¬ catalog.StickyReachedAgain request := by
  obtain ⟨context, candidates, hplanning, hpass⟩ := planning_ok hplan
  have hcounts : catalog.CountsEachOnce request plan ↔
      filteredCount plan.filteredSummary = (catalog.rejectedEntries request context candidates).card ∧
      ((∀ selection, plan.outcome ≠ .selected selection) →
        filteredCount plan.filteredSummary = candidates.length) := by
    unfold GatewayCatalogSnapshot.CountsEachOnce
    rw [hplanning]
    exact ⟨fun ⟨_, _, heq, h⟩ => by cases heq; exact h, fun h => ⟨_, _, rfl, h⟩⟩
  have hreached : catalog.StickyReachedAgain request ↔
      ∃ position, stickyPosition request context candidates = some position ∧
        ∀ earlier ≤ position, catalog.rejectsAt context candidates earlier = true := by
    unfold GatewayCatalogSnapshot.StickyReachedAgain
    rw [hplanning]
    exact ⟨fun ⟨_, _, position, heq, h⟩ => by cases heq; exact ⟨position, h⟩, fun ⟨position, h⟩ => ⟨_, _, position, rfl, h⟩⟩
  rw [hcounts, hreached]
  rcases hpass with ⟨selection, evidence, hselected, rfl⟩ | ⟨stickyMissReason, hmiss, hfinish⟩
  · -- A sticky hit evaluates one entry and rejects none.
    obtain ⟨hcount, hnone⟩ := tryStickyRouteSelection_count catalog request context candidates
    rw [hselected] at hcount hnone
    have hempty := hnone selection rfl
    have hentries : catalog.rejectedEntries request context candidates = ∅ := by
      unfold GatewayCatalogSnapshot.rejectedEntries GatewayCatalogSnapshot.planPositions
      rw [hselected, List.append_nil, hempty, List.toFinset_nil]
    have hleft : filteredCount evidence.filteredSummary =
        (catalog.rejectedEntries request context candidates).card ∧
        ((∀ other, RoutePlanOutcome.selected selection ≠ .selected other) →
          filteredCount evidence.filteredSummary = candidates.length) := by
      rw [hcount, hempty, hentries]
      exact ⟨rfl, fun hother => (hother selection rfl).elim⟩
    refine iff_of_true hleft ?_
    rintro ⟨position, hposition, hall⟩
    have hmem : position ∈ (stickyPosition request context candidates).toList.filter
        (catalog.rejectsAt context candidates) := by
      rw [hposition]
      exact List.mem_filter.mpr ⟨List.mem_singleton.mpr rfl, hall position le_rfl⟩
    rw [hempty] at hmem
    cases hmem
  · exact finish_countsOnce_iff stickyMissReason hmiss hfinish

/-- The request of `stickyRequest` while the endpoint of its sticky record is drained. -/
def halfDrainedRequest : RoutePlanRequest :=
  { stickyRequest with
    hotState := { stickyRequest.hotState with endpointIsDrained := fun _ providerEndpointId _ _ =>
      providerEndpointId == "ep_b" } }

/-- The entry of the sticky record is rejected and counted, and the entry before it takes the request. -/
theorem stickyRequest_countsEachOnce :
    stickyCatalog.validate httpUri = .ok () ∧
      ∃ plan, stickyCatalog.planRuntimeRouteWithHotState halfDrainedRequest = .ok plan ∧
        plan.filteredSummary = [⟨.endpointDrained, 1⟩] ∧
          stickyCatalog.CountsEachOnce halfDrainedRequest plan := by
  obtain ⟨plan, hplan, hcounted⟩ : ∃ plan, stickyCatalog.planRuntimeRouteWithHotState halfDrainedRequest = .ok plan ∧
      plan.filteredSummary = [⟨.endpointDrained, 1⟩] := ⟨_, rfl, rfl⟩
  refine ⟨rfl, plan, hplan, hcounted, (plan_countsEachOnce_iff stickyCatalog halfDrainedRequest plan hplan).mpr ?_⟩
  rintro ⟨context, candidates, position, hplanning, hposition, hall⟩
  have hcandidates := Except.ok.inj hplanning
  cases hcandidates
  cases hall 0 (Nat.zero_le position)

/-- The request of `stickyRequest` while both endpoints are drained. -/
def drainedStickyRequest : RoutePlanRequest :=
  { stickyRequest with hotState := { stickyRequest.hotState with endpointIsDrained := fun _ _ _ _ => true } }

theorem drainedSticky_countedTwice :
    stickyCatalog.validate httpUri = .ok () ∧
      ∃ plan, stickyCatalog.planRuntimeRouteWithHotState drainedStickyRequest = .ok plan ∧
        plan = ⟨.noRoute, [⟨.endpointDrained, 3⟩]⟩ ∧ ¬ stickyCatalog.CountsEachOnce drainedStickyRequest plan := by
  refine ⟨rfl, _, rfl, rfl, ?_⟩
  rintro ⟨context, candidates, hplanning, hcount, -⟩
  cases Except.ok.inj hplanning
  cases hcount

end Starweaver.Gateway
