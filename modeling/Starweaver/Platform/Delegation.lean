import Starweaver.Library.Machine
import Starweaver.Platform.AccessSteps

namespace Starweaver.Platform

open Library.AssocMap Library.Checks Library.Machine Library.OrderedMap

def BindingsValid (store : AccessStore) : Prop :=
  ∀ id record, store.roleBindings.lookup id = some record → ValidBinding record

section Valid

variable {env : PlatformEnv} {store : AccessStore} {actor : AuthenticatedActor}

theorem ValidBinding.of_same {old record : PlatformRoleBindingRecord} (h : ValidBinding old)
    (hsame : SameBinding record old) : ValidBinding record := by
  obtain ⟨htenant, horganization, hproject, -, hrole⟩ := hsame
  obtain ⟨role, hbuiltIn, hshape⟩ := h.shape
  refine ⟨htenant ▸ h.tenant, horganization ▸ h.organization, hproject ▸ h.project, role, ?_, ?_⟩
  · rw [PlatformRoleBindingRecord.builtInRole, hrole]
    exact hbuiltIn
  · rw [horganization, hproject]
    exact hshape

theorem reactivated_same (record : PlatformRoleBindingRecord) : SameBinding (reactivated record) record := by
  unfold reactivated
  split
  · exact ⟨rfl, rfl, rfl, rfl, rfl⟩
  · exact ⟨rfl, rfl, rfl, rfl, rfl⟩

theorem BindingsValid.insert {record : PlatformRoleBindingRecord} (hvalid : BindingsValid store) (key : String)
    (hrecord : ValidBinding record) :
    BindingsValid { store with roleBindings := store.roleBindings.insert key record } := by
  intro id found hfound
  rcases insert_some hfound with ⟨-, rfl⟩ | ⟨-, hold⟩
  · exact hrecord
  · exact hvalid id found hold

theorem BindingsValid.delete (hvalid : BindingsValid store) (test : PlatformRoleBindingRecord → Bool) {id : String}
    {record : PlatformRoleBindingRecord}
    (h : (deleteRoleBindings store.roleBindings test).lookup id = some record) : ValidBinding record := by
  obtain ⟨old, hold, rfl | rfl⟩ := deleteRoleBindings_some h
  · exact hvalid id record hold
  · exact (hvalid id old hold).of_same ⟨rfl, rfl, rfl, rfl, rfl⟩

end Valid

section Inside

variable (organizationOf : String → String) (organizationId : String)

/-- The part of the tenant that the binding's grants cover belongs to the organization. -/
def ScopeInside (binding : PlatformRoleBindingRecord) : Prop :=
  match binding.projectId with
  | some projectId => organizationOf projectId = organizationId
  | none => binding.organizationId = some organizationId

/-- All active role bindings of the actor name the organization and projects of it. -/
def OnlyInside (store : AccessStore) (actor : AuthenticatedActor) : Prop :=
  ∀ binding ∈ activeRoleBindingsForPrincipal store.roleBindings actor.tenantId actor.principalId,
    binding.organizationId = some organizationId ∧
      ∀ projectId, binding.projectId = some projectId → organizationOf projectId = organizationId

/-- The owner record of the resource names the organization, and a project of it if it names one. -/
structure OwnedBy (resource : ResourceRef) : Prop where
  organization : resource.organizationId = some organizationId
  start : startsWith organizationId "org_" = true
  project : ∀ projectId, resource.projectId = some projectId →
    startsWith projectId "prj_" = true ∧ organizationOf projectId = organizationId

end Inside

section Scope

variable {organizationOf : String → String} {organizationId : String} {store : AccessStore}
  {actor : AuthenticatedActor} {binding : PlatformRoleBindingRecord}

theorem OnlyInside.scopeInside (hinside : OnlyInside organizationOf organizationId store actor) {key : String}
    (hstored : store.roleBindings.lookup key = some binding) (htenant : binding.tenantId = actor.tenantId)
    (hprincipal : binding.principalId = actor.principalId) (hactive : binding.status = .active) :
    ScopeInside organizationOf organizationId binding := by
  have hmem : binding ∈ activeRoleBindingsForPrincipal store.roleBindings actor.tenantId actor.principalId := by
    simp only [activeRoleBindingsForPrincipal, List.mem_filter, mem_orderedValues, Bool.and_eq_true, beq_iff_eq]
    exact ⟨⟨key, hstored⟩, ⟨htenant, hprincipal⟩, hactive⟩
  obtain ⟨horganization, hproject⟩ := hinside binding hmem
  unfold ScopeInside
  split
  · rename_i projectId hprojectId
    exact hproject projectId hprojectId
  · exact horganization

theorem startsWith_ne {left right first second : String} (hsize : first.utf8ByteSize = second.utf8ByteSize)
    (hne : first ≠ second) (hleft : startsWith left first = true) (hright : startsWith right second = true) :
    left ≠ right := by
  rintro rfl
  exact hne (startsWith_apart hsize hleft hright)

/-- A scope inside one organization covers nothing that another one owns. -/
theorem ScopeInside.apart {other : String} {role : BuiltInRole} {action : PlatformAction} {resource : ResourceRef}
    (hinside : ScopeInside organizationOf organizationId binding) (hvalid : ValidBinding binding)
    (hrole : binding.builtInRole = some role) (howned : OwnedBy organizationOf other resource)
    (hother : other ≠ organizationId) (htenant : resource.tenantId = binding.tenantId) :
    grantScopeMatches ⟨binding.tenantId, binding.principalId, action, action.resourceKind, role.scopeKind,
      roleBindingScopeId binding⟩ resource = false := by
  have hshape := hvalid.role_shape hrole
  have htenantStart := hvalid.tenant
  unfold ScopeInside at hinside
  rw [Bool.eq_false_iff]
  intro hmatch
  cases hproject : binding.projectId with
  | some projectId =>
    have hprojectStart := hvalid.project projectId hproject
    simp only [hproject] at hinside hshape
    have hnotProject : resource.projectId ≠ some projectId := by
      intro hresource
      exact hother ((howned.project projectId hresource).2.symm.trans hinside)
    have hscope : roleBindingScopeId binding = projectId := by simp [roleBindingScopeId, hproject]
    rw [hscope] at hmatch
    cases hkind : role.scopeKind with
    | tenant => cases horganization : binding.organizationId <;> simp [validateScopeShape, hkind] at hshape
    | organization =>
      cases horganization : binding.organizationId <;> simp [validateScopeShape, hkind, horganization] at hshape
    | project =>
      simp only [grantScopeMatches, hkind, beq_iff_eq] at hmatch
      exact hnotProject hmatch
    | any =>
      simp only [grantScopeMatches, hkind, howned.organization, htenant, Bool.or_eq_true, beq_iff_eq,
        Option.some.injEq] at hmatch
      rcases hmatch with (heq | heq) | heq
      · exact startsWith_ne (by decide) (by decide) hprojectStart htenantStart heq
      · exact startsWith_ne (by decide) (by decide) howned.start hprojectStart heq
      · exact hnotProject heq
  | none =>
    simp only [hproject] at hinside
    have horganizationStart := hvalid.organization organizationId hinside
    have hscope : roleBindingScopeId binding = organizationId := by simp [roleBindingScopeId, hproject, hinside]
    rw [hscope] at hmatch
    rw [hproject, hinside] at hshape
    cases hkind : role.scopeKind with
    | tenant => simp [validateScopeShape, hkind] at hshape
    | organization =>
      simp only [grantScopeMatches, hkind, howned.organization, beq_iff_eq, Option.some.injEq] at hmatch
      exact hother hmatch
    | project => simp [validateScopeShape, hkind] at hshape
    | any =>
      simp only [grantScopeMatches, hkind, howned.organization, htenant, Bool.or_eq_true, beq_iff_eq,
        Option.some.injEq] at hmatch
      rcases hmatch with (heq | heq) | heq
      · exact startsWith_ne (by decide) (by decide) horganizationStart htenantStart heq
      · exact hother heq
      · exact startsWith_ne (by decide) (by decide) (howned.project _ heq).1 horganizationStart rfl

theorem granted_any {role : BuiltInRole} {action : PlatformAction} (hkind : role.scopeKind = .any)
    (hgranted : action ∈ role.actions) : action ∈ PlatformAction.auditorActions := by
  cases role <;> simp only [BuiltInRole.scopeKind, reduceCtorEq] at hkind
  exact hgranted

/-- What an actor inside the organization may write is in the organization, or in a project of it. -/
theorem OnlyInside.authorized {env : PlatformEnv} {action : PlatformAction} {resource : ResourceRef}
    (hinside : OnlyInside organizationOf organizationId store actor) (hgrants : env.grants = [])
    (hvalid : BindingsValid store) (haction : action ∉ PlatformAction.auditorActions)
    (hauthorized : authorizeServiceAction store env.grants actor action resource = .ok ()) :
    resource.organizationId = some organizationId ∨
      ∃ projectId, resource.projectId = some projectId ∧ organizationOf projectId = organizationId := by
  rw [hgrants, authorizeServiceAction_nil, roleBindingAuthorizationAllows_iff] at hauthorized
  obtain ⟨-, binding, role, hbinding⟩ := hauthorized
  obtain ⟨key, hstored⟩ := hbinding.stored
  have hscopeInside := hinside.scopeInside hstored hbinding.tenant hbinding.principal hbinding.active
  have hshape := (hvalid key binding hstored).role_shape hbinding.hasRole
  have hmatch := hbinding.scope
  unfold ScopeInside at hscopeInside
  cases hproject : binding.projectId with
  | some projectId =>
    simp only [hproject] at hscopeInside hshape
    have hscope : roleBindingScopeId binding = projectId := by simp [roleBindingScopeId, hproject]
    cases hkind : role.scopeKind with
    | tenant => cases horganization : binding.organizationId <;> simp [validateScopeShape, hkind] at hshape
    | organization =>
      cases horganization : binding.organizationId <;> simp [validateScopeShape, hkind, horganization] at hshape
    | project =>
      simp only [grantScopeMatches, hkind, hscope, beq_iff_eq] at hmatch
      exact .inr ⟨projectId, hmatch, hscopeInside⟩
    | any => exact (haction (granted_any hkind hbinding.granted)).elim
  | none =>
    simp only [hproject] at hscopeInside
    have hscope : roleBindingScopeId binding = organizationId := by
      simp [roleBindingScopeId, hproject, hscopeInside]
    rw [hproject, hscopeInside] at hshape
    cases hkind : role.scopeKind with
    | tenant => simp [validateScopeShape, hkind] at hshape
    | organization =>
      simp only [grantScopeMatches, hkind, hscope, beq_iff_eq] at hmatch
      exact .inl hmatch
    | project => simp [validateScopeShape, hkind] at hshape
    | any => exact (haction (granted_any hkind hbinding.granted)).elim

end Scope

section Gains

variable {organizationOf : String → String} {organizationId : String} {env : PlatformEnv}
  {actor : AuthenticatedActor} {before after : AccessStore}

/-- What is active after a step was there before it, or is inside the organization; a membership may also be one
of the actor. -/
structure GainsInside (organizationOf : String → String) (organizationId : String) (actor : AuthenticatedActor)
    (before after : AccessStore) : Prop where
  roleBinding : ∀ id record, after.roleBindings.lookup id = some record → record.status = .active →
    before.roleBindings.lookup id = some record ∨ ScopeInside organizationOf organizationId record
  organizationMember : ∀ id record, after.memberships.organizationMembers.lookup id = some record →
    record.status = .active → before.memberships.organizationMembers.lookup id = some record ∨
      record.organizationId = organizationId ∨
      record.tenantId = actor.tenantId ∧ record.principalId = actor.principalId
  projectMember : ∀ id record, after.memberships.projectMembers.lookup id = some record →
    record.status = .active → before.memberships.projectMembers.lookup id = some record ∨
      organizationOf record.projectId = organizationId ∨
      record.tenantId = actor.tenantId ∧ record.principalId = actor.principalId

theorem GainsInside.refl (store : AccessStore) : GainsInside organizationOf organizationId actor store store :=
  ⟨fun _ _ h _ => .inl h, fun _ _ h _ => .inl h, fun _ _ h _ => .inl h⟩

/-- A binding of another organization's part of the tenant has its membership before the step too. -/
theorem GainsInside.membership {binding : PlatformRoleBindingRecord} {key : String}
    (hgains : GainsInside organizationOf organizationId actor before after)
    (hinside : OnlyInside organizationOf organizationId before actor)
    (hstored : before.roleBindings.lookup key = some binding) (hactive : binding.status = .active)
    (houtside : ¬ ScopeInside organizationOf organizationId binding)
    (hmember : roleBindingMembershipAllows after binding = true) :
    roleBindingMembershipAllows before binding = true := by
  have hnotActor {tenantId principalId : String} (htenant : tenantId = binding.tenantId)
      (hprincipal : principalId = binding.principalId) :
      ¬ (tenantId = actor.tenantId ∧ principalId = actor.principalId) := by
    rintro ⟨hactorTenant, hactorPrincipal⟩
    exact houtside (hinside.scopeInside hstored (htenant.symm.trans hactorTenant)
      (hprincipal.symm.trans hactorPrincipal) hactive)
  unfold ScopeInside at houtside
  cases hproject : binding.projectId with
  | some projectId =>
    simp only [hproject] at houtside
    rw [roleBindingMembershipAllows_project hproject] at hmember ⊢
    obtain ⟨id, member, hid, hmemberProject, htenant, hprincipal, hstatus⟩ := hmember
    rcases hgains.projectMember id member hid hstatus with hold | horganization | hactor
    · exact ⟨id, member, hold, hmemberProject, htenant, hprincipal, hstatus⟩
    · exact (houtside (hmemberProject ▸ horganization)).elim
    · exact (hnotActor htenant hprincipal hactor).elim
  | none =>
    simp only [hproject] at houtside
    cases horganization : binding.organizationId with
    | none => simp [roleBindingMembershipAllows, hproject, horganization]
    | some other =>
      rw [roleBindingMembershipAllows_organization hproject horganization] at hmember ⊢
      obtain ⟨id, member, hid, hmemberOrganization, htenant, hprincipal, hstatus⟩ := hmember
      rcases hgains.organizationMember id member hid hstatus with hold | hin | hactor
      · exact ⟨id, member, hold, hmemberOrganization, htenant, hprincipal, hstatus⟩
      · rw [horganization, ← hmemberOrganization, hin] at houtside
        exact (houtside rfl).elim
      · exact (hnotActor htenant hprincipal hactor).elim

/-- A step that only gains access inside the organization allows nothing new outside of it. -/
theorem GainsInside.allowed_before {other : String} {principal : AuthenticatedActor} {action : PlatformAction}
    {resource : ResourceRef} (hgains : GainsInside organizationOf organizationId actor before after)
    (hinside : OnlyInside organizationOf organizationId before actor) (hvalid : BindingsValid after)
    (howned : OwnedBy organizationOf other resource) (hother : other ≠ organizationId)
    (hallowed : roleBindingAuthorizationAllows after principal action resource = true) :
    roleBindingAuthorizationAllows before principal action resource = true := by
  rw [roleBindingAuthorizationAllows_iff] at hallowed ⊢
  obtain ⟨hadmissible, binding, role, hbinding⟩ := hallowed
  obtain ⟨key, hstored⟩ := hbinding.stored
  have houtside : ¬ ScopeInside organizationOf organizationId binding := by
    intro hscope
    have htenant := hadmissible.tenant.trans hbinding.tenant.symm
    have hmatch := hbinding.scope
    rw [hscope.apart (hvalid key binding hstored) hbinding.hasRole howned hother htenant] at hmatch
    cases hmatch
  rcases hgains.roleBinding key binding hstored hbinding.active with hold | hscope
  · refine ⟨hadmissible, binding, role, { hbinding with stored := ⟨key, hold⟩, member := ?_ }⟩
    exact hgains.membership hinside hold hbinding.active houtside hbinding.member
  · exact (houtside hscope).elim

end Gains

/-- The project in which the request may make a binding or a membership active: one that it names, or the one of
the stored record that it names. An accepted invitation counts when the project holds the principal in another
tenant, since project members are found without their tenant. -/
def AccessCall.opensProject (env : PlatformEnv) (store : AccessStore) (actor : AuthenticatedActor) :
    AccessCall → Option String
  | .createRoleBinding request _ => normalizedOptionalString request.project
  | .updateRoleBindingStatus roleBindingId request =>
    if roleBindingStatusFromRequest request.status = .ok .active then
      (store.roleBindings.lookup roleBindingId).bind (·.projectId)
    else none
  | .createProjectMember projectId _ _ => some projectId
  | .updateProjectMemberStatus _ projectMemberId request =>
    if membershipStatusFromRequest request.status = .ok .active then
      (store.memberships.projectMembers.lookup projectMemberId).map (·.projectId)
    else none
  | .acceptAuthInvitation rawToken _ _ _ =>
    match organizationInvitationByRawToken env store rawToken with
    | .error _ => none
    | .ok invitation => invitation.projectId.filter fun projectId =>
      (projectMembersForProject store.memberships projectId).any fun member =>
        member.principalId == actor.principalId && member.tenantId != actor.tenantId
  | _ => none

section Calls

variable {organizationOf : String → String} {organizationId : String} {env : PlatformEnv} {store : AccessStore}
  {actor : AuthenticatedActor}

theorem OnlyInside.scopeInside_of_authorized {record : PlatformRoleBindingRecord}
    (hinside : OnlyInside organizationOf organizationId store actor) (hgrants : env.grants = [])
    (hvalid : BindingsValid store)
    (hauthorized : authorizeServiceAction store env.grants actor .roleBindingWrite (roleBindingResource record) =
      .ok ())
    (hproject : ∀ projectId, record.projectId = some projectId → organizationOf projectId = organizationId) :
    ScopeInside organizationOf organizationId record := by
  have hresource := hinside.authorized hgrants hvalid (by decide) hauthorized
  unfold ScopeInside
  split
  · rename_i projectId hprojectId
    exact hproject projectId hprojectId
  · rename_i hnone
    unfold roleBindingResource at hresource
    cases horganization : record.organizationId with
    | none => simp [hnone, horganization, ResourceRef.tenant] at hresource
    | some other => simpa [hnone, horganization] using hresource

theorem gainsInside_insertBinding {record : PlatformRoleBindingRecord} (key : String)
    (hrecord : record.status = .active → ScopeInside organizationOf organizationId record) :
    GainsInside organizationOf organizationId actor store
      { store with roleBindings := store.roleBindings.insert key record } := by
  refine { GainsInside.refl store with roleBinding := fun id found hfound hactive => ?_ }
  rcases insert_some hfound with ⟨-, rfl⟩ | ⟨-, hold⟩
  · exact .inr (hrecord hactive)
  · exact .inl hold

theorem createRoleBinding_gainsInside (hinside : OnlyInside organizationOf organizationId store actor)
    (hgrants : env.grants = []) (hkeyed : StoreKeyed store) (hvalid : BindingsValid store)
    {request : CreateRoleBindingRequest} {newId : String}
    (hproject : ∀ projectId, normalizedOptionalString request.project = some projectId →
      organizationOf projectId = organizationId) :
    GainsInside organizationOf organizationId actor store (createRoleBinding env store actor request newId).1 := by
  rcases createRoleBinding_cases env hkeyed actor request newId with hstore | ⟨candidate, hcandidate, hcases⟩
  · rw [hstore]
    exact GainsInside.refl store
  obtain ⟨-, hcandidateProject, -, -, -, hauthorized⟩ := roleBindingCandidate_ok hcandidate
  have hscope : ScopeInside organizationOf organizationId candidate :=
    hinside.scopeInside_of_authorized hgrants hvalid hauthorized
      fun projectId h => hproject projectId (hcandidateProject ▸ h)
  rcases hcases with ⟨record, -, hsame, hstore⟩ | hstore
  · rw [hstore]
    refine gainsInside_insertBinding _ fun _ => ?_
    obtain ⟨-, horganization, hprojectId, -, -⟩ := reactivated_same record
    unfold ScopeInside at hscope ⊢
    rw [hprojectId, horganization, hsame.2.2.1, hsame.2.1]
    exact hscope
  · rw [hstore]
    exact gainsInside_insertBinding _ fun _ => hscope

theorem updateRoleBinding_gainsInside (hinside : OnlyInside organizationOf organizationId store actor)
    (hgrants : env.grants = []) (hvalid : BindingsValid store) {roleBindingId : String} {request : UpdateStatusRequest}
    (hproject : roleBindingStatusFromRequest request.status = .ok .active → ∀ record projectId,
      store.roleBindings.lookup roleBindingId = some record → record.projectId = some projectId →
      organizationOf projectId = organizationId) :
    GainsInside organizationOf organizationId actor store
      (updateRoleBinding env store actor roleBindingId request).1 := by
  rcases updateRoleBinding_cases env store actor roleBindingId request with
    hstore | ⟨record, status, hrecord, hstatus, hauthorized, hstore⟩
  · rw [hstore]
    exact GainsInside.refl store
  · rw [hstore]
    refine gainsInside_insertBinding _ fun hactive => ?_
    have hrequested : roleBindingStatusFromRequest request.status = .ok .active :=
      hstatus.trans (congrArg _ hactive)
    exact hinside.scopeInside_of_authorized hgrants hvalid hauthorized
      fun projectId h => hproject hrequested record projectId hrecord h

theorem createOrganizationMember_gainsInside (hinside : OnlyInside organizationOf organizationId store actor)
    (hgrants : env.grants = []) (hkeyed : StoreKeyed store) (hvalid : BindingsValid store) (other : String)
    (request : CreateOrganizationMemberRequest) (newId : String) :
    GainsInside organizationOf organizationId actor store
      (createOrganizationMember env store actor other request newId).1 := by
  unfold createOrganizationMember
  split
  · exact GainsInside.refl store
  · rename_i upsert hupsert
    obtain ⟨-, horganization, -, hauthorized⟩ := organizationMemberUpsert_ok hupsert
    have hother : other = organizationId := by
      simpa using hinside.authorized hgrants hvalid (by decide) hauthorized
    refine ⟨fun _ _ h _ => .inl h, fun id record hrecord _ => ?_, fun id record hrecord _ => .inl ?_⟩
    · rcases upsertOrganizationMember_some hkeyed.organizationMembers hrecord with hold | ⟨-, hnew, -⟩
      · exact .inl hold
      · exact .inr (.inl (hnew.trans (horganization.trans hother)))
    · simpa only [upsertOrganizationMember_projectMembers] using hrecord

theorem OrganizationMemberChange.gainsInside {organizationMemberId : String} {status : PlatformMembershipStatus}
    {changed : AccessStore} (hinside : OnlyInside organizationOf organizationId store actor)
    (hgrants : env.grants = []) (hvalid : BindingsValid store)
    (h : OrganizationMemberChange env store actor organizationMemberId status changed) :
    GainsInside organizationOf organizationId actor store changed := by
  obtain ⟨member, -, -, hauthorized, rfl⟩ := h
  have horganization : member.organizationId = organizationId := by
    simpa [organizationMemberResource] using hinside.authorized hgrants hvalid (by decide) hauthorized
  refine ⟨fun id record hrecord hactive => .inl ?_, fun id record hrecord hactive => ?_,
    fun id record hrecord hactive => .inl ?_⟩
  · simp only [cascadeOrganizationMember] at hrecord
    split at hrecord
    · obtain ⟨old, hold, rfl | rfl⟩ := deleteRoleBindings_some hrecord
      · exact hold
      · cases hactive
    · exact hrecord
  · rcases insert_some hrecord with ⟨-, rfl⟩ | ⟨-, hold⟩
    · exact .inr (.inl horganization)
    · exact .inl hold
  · obtain ⟨old, hold, rfl | ⟨hstatus, rfl⟩⟩ := cascade_some hrecord
    · exact hold
    · exact (hstatus hactive).elim

theorem OrganizationMemberChange.bindingsValid {organizationMemberId : String} {status : PlatformMembershipStatus}
    {changed : AccessStore} (hvalid : BindingsValid store)
    (h : OrganizationMemberChange env store actor organizationMemberId status changed) : BindingsValid changed := by
  obtain ⟨member, -, -, -, rfl⟩ := h
  intro id record hrecord
  simp only [cascadeOrganizationMember] at hrecord
  split at hrecord
  · exact hvalid.delete _ hrecord
  · exact hvalid id record hrecord

theorem createProjectMember_gainsInside (hkeyed : StoreKeyed store) {projectId : String}
    (hproject : organizationOf projectId = organizationId) (request : CreateProjectMemberRequest) (newId : String) :
    GainsInside organizationOf organizationId actor store
      (createProjectMember env store actor projectId request newId).1 := by
  unfold createProjectMember
  split
  · exact GainsInside.refl store
  · rename_i upsert hupsert
    obtain ⟨hupsertProject, -⟩ := projectMemberUpsert_ok hupsert
    refine ⟨fun _ _ h _ => .inl h, fun id record hrecord _ => .inl ?_, fun id record hrecord _ => ?_⟩
    · simpa only [upsertProjectMember_organizationMembers] using hrecord
    · rcases upsertProjectMember_some hkeyed.projectMembers hrecord with hold | ⟨hnew, -⟩
      · exact .inl hold
      · exact .inr (.inl (by rw [hnew, hupsertProject, hproject]))

theorem updateProjectMember_gainsInside {projectId projectMemberId : String} {request : UpdateStatusRequest}
    {changed : AccessStore}
    (hproject : membershipStatusFromRequest request.status = .ok .active → ∀ record,
      store.memberships.projectMembers.lookup projectMemberId = some record →
      organizationOf record.projectId = organizationId)
    (h : updateProjectMember env store actor projectId projectMemberId request = .ok changed) :
    GainsInside organizationOf organizationId actor store changed := by
  obtain ⟨member, status, hmember, -, hstatus, -, hmemberships, -, hbindings⟩ := updateProjectMember_ok h
  refine ⟨fun id record hrecord hactive => .inl ?_, fun id record hrecord hactive => .inl ?_,
    fun id record hrecord hactive => ?_⟩
  · rw [hbindings] at hrecord
    split at hrecord
    · obtain ⟨old, hold, rfl | rfl⟩ := deleteRoleBindings_some hrecord
      · exact hold
      · cases hactive
    · exact hrecord
  · rw [hmemberships] at hrecord
    exact hrecord
  · rw [hmemberships] at hrecord
    rcases insert_some hrecord with ⟨-, rfl⟩ | ⟨-, hold⟩
    · have hrequested : membershipStatusFromRequest request.status = .ok .active :=
        hstatus.trans (congrArg _ hactive)
      exact .inr (.inl (hproject hrequested member hmember))
    · exact .inl hold

theorem acceptAuthInvitation_gainsInside (hkeyed : StoreKeyed store) {rawToken : String} {nowUnix : Int}
    {organizationMemberId projectMemberId : String}
    (hproject : ∀ invitation projectId id member, organizationInvitationByRawToken env store rawToken = .ok invitation →
      invitation.projectId = some projectId → store.memberships.projectMembers.lookup id = some member →
      member.projectId = projectId → member.principalId = actor.principalId → member.tenantId ≠ actor.tenantId →
      organizationOf projectId = organizationId) :
    GainsInside organizationOf organizationId actor store
      (acceptAuthInvitation env store actor rawToken nowUnix organizationMemberId projectMemberId) := by
  unfold acceptAuthInvitation
  split
  · exact GainsInside.refl store
  rename_i invitation invitations haccepted
  obtain ⟨before, hbefore, htenant, hinvitation, -, -⟩ := acceptedInvitation_ok hkeyed haccepted
  have hinvitationTenant : invitation.tenantId = actor.tenantId := by
    rw [hinvitation]
    exact htenant
  have hmember (id : String) (record : PlatformOrganizationMembershipRecord)
      (hrecord : (upsertOrganizationMember store.memberships ⟨organizationMemberId, invitation.tenantId,
        invitation.organizationId, actor.principalId, "user"⟩).1.organizationMembers.lookup id = some record) :
      store.memberships.organizationMembers.lookup id = some record ∨ record.organizationId = organizationId ∨
        record.tenantId = actor.tenantId ∧ record.principalId = actor.principalId := by
    rcases upsertOrganizationMember_some hkeyed.organizationMembers hrecord with hold | ⟨hnew, -, hprincipal⟩
    · exact .inl hold
    · exact .inr (.inr ⟨hnew.trans hinvitationTenant, hprincipal⟩)
  simp only
  split
  · refine ⟨fun _ _ h _ => .inl h, fun id record hrecord _ => hmember id record hrecord,
      fun id record hrecord _ => .inl ?_⟩
    simpa only [upsertOrganizationMember_projectMembers] using hrecord
  · refine ⟨fun _ _ h _ => .inl h, fun id record hrecord _ => hmember id record ?_, fun id record hrecord _ => ?_⟩
    · simpa only [invitedProjectMember_organizationMembers] using hrecord
    · unfold invitedProjectMember at hrecord
      split at hrecord
      · rw [upsertOrganizationMember_projectMembers] at hrecord
        exact .inl hrecord
      · rename_i projectId hprojectId
        have hbeforeProject : before.projectId = some projectId := by
          rw [hinvitation] at hprojectId
          exact hprojectId
        have hstored := hkeyed.projectMembers
        rw [← upsertOrganizationMember_projectMembers store.memberships] at hstored
        rcases upsertProjectMember_some hstored hrecord with hold | ⟨hnew, hprincipal, htenants⟩
        · rw [upsertOrganizationMember_projectMembers] at hold
          exact .inl hold
        by_cases hsame : record.tenantId = actor.tenantId
        · exact .inr (.inr ⟨hsame, hprincipal⟩)
        rcases htenants with hrequested | ⟨key, old, hold, holdProject, holdPrincipal, holdTenant⟩
        · exact (hsame (hrequested.trans hinvitationTenant)).elim
        · rw [upsertOrganizationMember_projectMembers] at hold
          have hinside := hproject before projectId key old hbefore hbeforeProject hold holdProject holdPrincipal
            (holdTenant ▸ hsame)
          exact .inr (.inl (by rw [hnew, hinside]))

theorem call_gainsInside (hinside : OnlyInside organizationOf organizationId store actor) (hgrants : env.grants = [])
    (hkeyed : StoreKeyed store) (hvalid : BindingsValid store) {request : AccessCall}
    (hproject : ∀ projectId, request.opensProject env store actor = some projectId →
      organizationOf projectId = organizationId) :
    GainsInside organizationOf organizationId actor store (store.call env actor request) := by
  cases request with
  | createRoleBinding request newId => exact createRoleBinding_gainsInside hinside hgrants hkeyed hvalid hproject
  | updateRoleBindingStatus roleBindingId request =>
    refine updateRoleBinding_gainsInside hinside hgrants hvalid fun hactive record projectId hrecord h => ?_
    apply hproject
    simp only [AccessCall.opensProject, if_pos hactive, hrecord, Option.bind_some, h]
  | createOrganizationMember other request newId =>
    exact createOrganizationMember_gainsInside hinside hgrants hkeyed hvalid other request newId
  | updateOrganizationMemberStatus other organizationMemberId request =>
    refine orUnchanged_of (GainsInside.refl store) fun changed hchanged => ?_
    obtain ⟨status, -, hchange⟩ := updateOrganizationMember_ok hchanged
    exact hchange.gainsInside hinside hgrants hvalid
  | removeOrganizationMember other organizationMemberId expectedVersion =>
    refine orUnchanged_of (GainsInside.refl store) fun changed hchanged => ?_
    exact (removeOrganizationMember_ok hchanged).gainsInside hinside hgrants hvalid
  | createProjectMember projectId request newId =>
    exact createProjectMember_gainsInside hkeyed (hproject projectId rfl) request newId
  | updateProjectMemberStatus projectId projectMemberId request =>
    refine orUnchanged_of (GainsInside.refl store) fun changed hchanged => ?_
    refine updateProjectMember_gainsInside (fun hactive record hrecord => hproject _ ?_) hchanged
    simp only [AccessCall.opensProject, if_pos hactive, hrecord, Option.map_some]
  | createOrganizationInvitation other request nowUnix newId rawToken =>
    refine orUnchanged_of (GainsInside.refl store) fun changed hchanged => ?_
    obtain ⟨-, invitation, -, -, -, rfl⟩ := createOrganizationInvitation_ok hchanged
    exact ⟨fun _ _ h _ => .inl h, fun _ _ h _ => .inl h, fun _ _ h _ => .inl h⟩
  | acceptAuthInvitation rawToken nowUnix organizationMemberId projectMemberId =>
    refine acceptAuthInvitation_gainsInside hkeyed ?_
    intro invitation projectId id member hinvitation hprojectId hmember hmemberProject hprincipal htenant
    apply hproject
    simp only [AccessCall.opensProject, hinvitation, hprojectId]
    refine Option.filter_eq_some_iff.mpr ⟨rfl, ?_⟩
    simp only [projectMembersForProject, List.any_eq_true, List.mem_filter, mem_orderedValues, Bool.and_eq_true,
      beq_iff_eq, bne_iff_ne]
    exact ⟨member, ⟨⟨id, hmember⟩, hmemberProject⟩, hprincipal, htenant⟩

theorem BindingsValid.call (hkeyed : StoreKeyed store) (hvalid : BindingsValid store) (request : AccessCall) :
    BindingsValid (store.call env actor request) := by
  cases request with
  | createRoleBinding request newId =>
    rw [AccessStore.call]
    rcases createRoleBinding_cases env hkeyed actor request newId with hstore | ⟨candidate, hcandidate, hcases⟩
    · rw [hstore]
      exact hvalid
    obtain ⟨-, -, -, hcandidateValid, -, -⟩ := roleBindingCandidate_ok hcandidate
    rcases hcases with ⟨record, hrecord, -, hstore⟩ | hstore
    · rw [hstore]
      exact hvalid.insert _ ((hvalid _ _ hrecord).of_same (reactivated_same record))
    · rw [hstore]
      exact hvalid.insert _ (validateRoleBinding_ok hcandidateValid)
  | updateRoleBindingStatus roleBindingId request =>
    rw [AccessStore.call]
    rcases updateRoleBinding_cases env store actor roleBindingId request with
      hstore | ⟨record, status, hrecord, -, -, hstore⟩
    · rw [hstore]
      exact hvalid
    · rw [hstore]
      apply hvalid.insert
      exact (hvalid _ _ hrecord).of_same ⟨rfl, rfl, rfl, rfl, rfl⟩
  | createOrganizationMember other request newId =>
    simp only [AccessStore.call, createOrganizationMember]
    split
    · exact hvalid
    · exact hvalid
  | updateOrganizationMemberStatus other organizationMemberId request =>
    refine orUnchanged_of hvalid fun changed hchanged => ?_
    obtain ⟨status, -, hchange⟩ := updateOrganizationMember_ok hchanged
    exact hchange.bindingsValid hvalid
  | removeOrganizationMember other organizationMemberId expectedVersion =>
    refine orUnchanged_of hvalid fun changed hchanged => ?_
    exact (removeOrganizationMember_ok hchanged).bindingsValid hvalid
  | createProjectMember projectId request newId =>
    simp only [AccessStore.call, createProjectMember]
    split
    · exact hvalid
    · exact hvalid
  | updateProjectMemberStatus projectId projectMemberId request =>
    refine orUnchanged_of hvalid fun changed hchanged id record hrecord => ?_
    obtain ⟨member, status, -, -, -, -, -, -, hbindings⟩ := updateProjectMember_ok hchanged
    rw [hbindings] at hrecord
    split at hrecord
    · exact hvalid.delete _ hrecord
    · exact hvalid id record hrecord
  | createOrganizationInvitation other request nowUnix newId rawToken =>
    refine orUnchanged_of hvalid fun changed hchanged => ?_
    obtain ⟨-, invitation, -, -, -, rfl⟩ := createOrganizationInvitation_ok hchanged
    exact hvalid
  | acceptAuthInvitation rawToken nowUnix organizationMemberId projectMemberId =>
    simp only [AccessStore.call, acceptAuthInvitation]
    split
    · exact hvalid
    · split
      · exact hvalid
      · exact hvalid

end Calls

abbrev AccessRequest := AuthenticatedActor × AccessCall

def AccessStore.after (env : PlatformEnv) (store : AccessStore) (requests : List AccessRequest) : AccessStore :=
  requests.foldl (fun store request => store.call env request.1 request.2) store

section Runs

variable {organizationOf : String → String} {organizationId : String} {env : PlatformEnv}

/-- The actor acts from inside the organization, and the project that an accepted request opens is one of it. -/
def OpensOwnProject (organizationOf : String → String) (organizationId : String) (env : PlatformEnv)
    (store : AccessStore) (request : AccessRequest) : Prop :=
  OnlyInside organizationOf organizationId store request.1 ∧
    (request.2.PassesChecks env store request.1 → ∀ projectId,
      request.2.opensProject env store request.1 = some projectId → organizationOf projectId = organizationId)

/-- No decision on what another organization owns turns from deny to allow between two states of a run. -/
theorem delegation_insideOrganization (hgrants : env.grants = []) {store : AccessStore} (hkeyed : StoreKeyed store)
    (hvalid : BindingsValid store) {requests : List AccessRequest}
    (hmeets : Meets (fun store request => some (store.call env request.1 request.2))
      (OpensOwnProject organizationOf organizationId env) store requests)
    {earlier later : List AccessRequest} (hrun : earlier ++ later <+: requests) {other : String}
    (hother : other ≠ organizationId) {resource : ResourceRef} (howned : OwnedBy organizationOf other resource)
    (principal : AuthenticatedActor) (action : PlatformAction)
    (hallowed : authorizeServiceAction (store.after env (earlier ++ later)) env.grants principal action resource =
      .ok ()) :
    authorizeServiceAction (store.after env earlier) env.grants principal action resource = .ok () := by
  obtain ⟨rest, rfl⟩ := hrun
  have hearlier := run_total (fun (store : AccessStore) (request : AccessRequest) =>
    store.call env request.1 request.2) store earlier
  rw [List.append_assoc] at hmeets
  obtain ⟨hfirst, hmeets⟩ := hmeets.of_append hearlier
  have hlater := run_total (fun (store : AccessStore) (request : AccessRequest) =>
    store.call env request.1 request.2) (store.after env earlier) later
  obtain ⟨hsecond, -⟩ := hmeets.of_append hlater
  have hstep (s : AccessStore) (r : AccessRequest) (next : AccessStore) (hs : StoreKeyed s ∧ BindingsValid s)
      (hcondition : OpensOwnProject organizationOf organizationId env s r)
      (hnext : some (s.call env r.1 r.2) = some next) :
      (StoreKeyed next ∧ BindingsValid next) ∧
        (roleBindingAuthorizationAllows next principal action resource = true →
          roleBindingAuthorizationAllows s principal action resource = true) := by
    cases hnext
    have hvalidNext : BindingsValid (s.call env r.1 r.2) := BindingsValid.call hs.1 hs.2 r.2
    have hgains : GainsInside organizationOf organizationId r.1 s (s.call env r.1 r.2) := by
      by_cases hchecked : r.2.PassesChecks env s r.1
      · exact call_gainsInside hcondition.1 hgrants hs.1 hs.2 (hcondition.2 hchecked)
      · rw [call_refused hchecked]
        exact GainsInside.refl s
    exact ⟨⟨hs.1.call r.2, hvalidNext⟩, hgains.allowed_before hcondition.1 hvalidNext howned hother⟩
  have hstart : StoreKeyed (store.after env earlier) ∧ BindingsValid (store.after env earlier) :=
    run_invariant (fun s r next hs hc hnext => (hstep s r next hs hc hnext).1) ⟨hkeyed, hvalid⟩ hfirst hearlier
  rw [hgrants, authorizeServiceAction_nil] at hallowed ⊢
  have hend := run_relates (fun _ h => h) (fun hst htu h => hst (htu h)) hstep hstart hsecond hlater
  apply hend.2
  rw [AccessStore.after, List.foldl_append] at hallowed
  exact hallowed

end Runs

section Examples

def delegatingAdmin : AuthenticatedActor := ⟨"ten_t", none, none, "usr_a", .user⟩

def delegate : AuthenticatedActor := ⟨"ten_t", none, none, "usr_x", .user⟩

/-- An administrator of one organization, and a member of a project of another one who has no role there. -/
def delegationStore : AccessStore where
  memberships :=
    { organizationMembers := (∅ : Index PlatformOrganizationMembershipRecord).insert "om_a"
        ⟨"om_a", "ten_t", "org_a", "usr_a", "user", .active, 1⟩
      projectMembers := (∅ : Index PlatformProjectMembershipRecord).insert "pm_x"
        ⟨"pm_x", "ten_t", "org_b", "prj_b", "usr_x", none, "user", .active, 1⟩ }
  roleBindings := (∅ : Index PlatformRoleBindingRecord).insert "rb_a"
    ⟨"rb_a", "ten_t", some "org_a", none, "usr_a", "organization_admin", .active, 1⟩
  invitations := ∅

def noGrants : PlatformEnv := ⟨[], id⟩

def ownerOf (projectId : String) : String := if projectId = "prj_a" then "org_a" else "org_b"

def delegationTo (projectId : String) : AccessRequest :=
  (delegatingAdmin, .createRoleBinding
    ⟨none, none, some "org_a", some projectId, "usr_x", "project_developer"⟩ "rb_new")

def foreignRun : ResourceRef := .project "Run" "ten_t" "org_b" "prj_b" "run_1"

theorem delegationStore_keyed : StoreKeyed delegationStore := by
  refine ⟨?_, ?_, ?_, ?_⟩
  · exact (Keyed.empty _).insert rfl
  · exact (Keyed.empty _).insert rfl
  · exact (Keyed.empty _).insert rfl
  · exact Keyed.empty _

theorem delegationStore_valid : BindingsValid delegationStore := by
  intro id record hrecord
  rcases insert_some hrecord with ⟨-, rfl⟩ | ⟨-, hold⟩
  · exact validateRoleBinding_ok (by decide +kernel)
  · cases hold

theorem delegatingAdmin_inside : OnlyInside ownerOf "org_a" delegationStore delegatingAdmin := by
  have hactive : activeRoleBindingsForPrincipal delegationStore.roleBindings delegatingAdmin.tenantId
      delegatingAdmin.principalId =
        [⟨"rb_a", "ten_t", some "org_a", none, "usr_a", "organization_admin", .active, 1⟩] := by decide +kernel
  intro binding hbinding
  rw [hactive, List.mem_singleton] at hbinding
  subst hbinding
  exact ⟨rfl, fun projectId hproject => by cases hproject⟩

theorem ownDelegation_insideOrganization :
    authorizeServiceAction (delegationStore.after noGrants [delegationTo "prj_a"]) noGrants.grants delegate .runCreate
      foreignRun ≠ .ok () := by
  intro hallowed
  have hmeets : Meets (fun store request => some (store.call noGrants request.1 request.2))
      (OpensOwnProject ownerOf "org_a" noGrants) delegationStore [delegationTo "prj_a"] := by
    refine ⟨⟨delegatingAdmin_inside, fun _ projectId hproject => ?_⟩, fun _ _ => trivial⟩
    have hnamed : some "prj_a" = some projectId := hproject ▸ by decide +kernel
    cases hnamed
    rfl
  have howned : OwnedBy ownerOf "org_b" foreignRun :=
    ⟨rfl, by decide +kernel, fun projectId hproject => by cases hproject; exact ⟨by decide +kernel, rfl⟩⟩
  have hrun : [] ++ [delegationTo "prj_a"] <+: [delegationTo "prj_a"] := List.prefix_refl _
  have hbefore := delegation_insideOrganization rfl delegationStore_keyed delegationStore_valid hmeets hrun (by decide)
    howned delegate .runCreate hallowed
  revert hbefore
  decide +kernel

theorem foreignDelegation_allows :
    StoreKeyed delegationStore ∧ BindingsValid delegationStore ∧
      OnlyInside ownerOf "org_a" delegationStore delegatingAdmin ∧ OwnedBy ownerOf "org_b" foreignRun ∧
      authorizeServiceAction delegationStore noGrants.grants delegate .runCreate foreignRun ≠ .ok () ∧
      authorizeServiceAction (delegationStore.after noGrants [delegationTo "prj_b"]) noGrants.grants delegate .runCreate
        foreignRun = .ok () := by
  refine ⟨delegationStore_keyed, delegationStore_valid, delegatingAdmin_inside, ⟨rfl, by decide +kernel, ?_⟩,
    by decide +kernel, by decide +kernel⟩
  intro projectId hproject
  cases hproject
  exact ⟨by decide +kernel, rfl⟩

end Examples

end Starweaver.Platform
