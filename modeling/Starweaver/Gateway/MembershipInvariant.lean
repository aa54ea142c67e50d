import Starweaver.Gateway.Memberships
import Starweaver.Gateway.SessionAgreement

namespace Starweaver.Gateway.Tenancy

open Library.AssocMap Library.Calendar Library.Checks Library.Machine

/-- What the membership tables and the directory agree on. -/
structure Consistent (s : TenancyStore) : Prop where
  organization_named : ∀ id organization, s.organizations.lookup id = some organization →
    organization.organizationId = id
  project_named : ∀ id project, s.projects.lookup id = some project → project.projectId = id
  user_named : ∀ id user, s.users.lookup id = some user → user.userId = id
  member_key : ∀ key member, s.organizationMemberships.lookup key = some member →
    key = (member.principalId, member.organizationId)
  member_user : ∀ key member, s.organizationMemberships.lookup key = some member →
    ∃ user, s.users.lookup member.principalId = some user
  member_tenant : ∀ key member, s.organizationMemberships.lookup key = some member →
    ∃ organization, s.organizations.lookup member.organizationId = some organization ∧
      organization.tenantId = member.tenantId
  project_tenant : ∀ id project, s.projects.lookup id = some project →
    ∃ organization, s.organizations.lookup project.organizationId = some organization ∧
      organization.tenantId = project.tenantId
  assigned_key : ∀ key member, s.projectMemberships.lookup key = some member →
    key = (member.principalId, member.projectId)
  assigned_user : ∀ key member, s.projectMemberships.lookup key = some member →
    ∃ user, s.users.lookup member.principalId = some user
  assigned_project : ∀ key member, s.projectMemberships.lookup key = some member →
    ∃ project, s.projects.lookup member.projectId = some project ∧
      project.organizationId = member.organizationId ∧ project.tenantId = member.tenantId
  default_organization : ∀ id user, s.users.lookup id = some user →
    ∀ organizationId, user.defaultOrganizationId = some organizationId →
      ∃ member, s.organizationMemberships.lookup (id, organizationId) = some member
  default_project : ∀ id user, s.users.lookup id = some user →
    ∀ projectId, user.defaultProjectId = some projectId →
      ∃ member, s.projectMemberships.lookup (id, projectId) = some member
  invited_organization : ∀ id invitation, s.organizationInvitations.lookup id = some invitation →
    ∃ organization, s.organizations.lookup invitation.organizationId = some organization ∧
      organization.tenantId = invitation.tenantId
  invited_project : ∀ id invitation, s.organizationInvitations.lookup id = some invitation →
    ∀ projectId, invitation.projectId = some projectId → ∃ project, s.projects.lookup projectId = some project ∧
      project.organizationId = invitation.organizationId ∧ project.tenantId = invitation.tenantId

def ActiveMember (s : TenancyStore) (principalId organizationId : String) : Prop :=
  ∃ member, s.organizationMemberships.lookup (principalId, organizationId) = some member ∧ member.status = .active

/-- Every active project membership is backed by an active organization membership. -/
def Backed (s : TenancyStore) : Prop :=
  ∀ key member, s.projectMemberships.lookup key = some member → member.status = .active →
    ActiveMember s member.principalId member.organizationId

theorem consistent_empty : Consistent .empty := by
  constructor <;> intro _ _ h <;> cases h

theorem backed_empty : Backed .empty := by
  intro _ _ h
  cases h

section Writes

variable {s : TenancyStore}

structure SameDirectory (s t : TenancyStore) : Prop where
  organizations : t.organizations = s.organizations
  projects : t.projects = s.projects
  users : t.users = s.users
  organizationMemberships : t.organizationMemberships = s.organizationMemberships
  projectMemberships : t.projectMemberships = s.projectMemberships
  organizationInvitations : t.organizationInvitations = s.organizationInvitations

theorem SameDirectory.refl (s : TenancyStore) : SameDirectory s s := ⟨rfl, rfl, rfl, rfl, rfl, rfl⟩

theorem Consistent.of_same {t : TenancyStore} (h : Consistent s) (hsame : SameDirectory s t) : Consistent t := by
  obtain ⟨h1, h2, h3, h4, h5, h6⟩ := hsame
  constructor <;> (try rw [h1]) <;> (try rw [h2]) <;> (try rw [h3]) <;> (try rw [h4]) <;> (try rw [h5]) <;> (try rw [h6])
  · exact h.organization_named
  · exact h.project_named
  · exact h.user_named
  · exact h.member_key
  · exact h.member_user
  · exact h.member_tenant
  · exact h.project_tenant
  · exact h.assigned_key
  · exact h.assigned_user
  · exact h.assigned_project
  · exact h.default_organization
  · exact h.default_project
  · exact h.invited_organization
  · exact h.invited_project

theorem Backed.of_same {t : TenancyStore} (h : Backed s) (hsame : SameDirectory s t) : Backed t := by
  unfold Backed ActiveMember
  rw [hsame.projectMemberships, hsame.organizationMemberships]
  exact h

theorem Consistent.put_member (h : Consistent s) (member : OrganizationMembershipRecord) {user : UserRecord}
    {organization : OrganizationRecord} (huser : s.users.lookup member.principalId = some user)
    (horganization : s.organizations.lookup member.organizationId = some organization)
    (htenant : organization.tenantId = member.tenantId) :
    Consistent { s with
      organizationMemberships :=
        s.organizationMemberships.insert (member.principalId, member.organizationId) member } := by
  refine { h with member_key := ?_, member_user := ?_, member_tenant := ?_, default_organization := ?_ }
  · intro key found hfound
    rcases insert_some hfound with ⟨rfl, rfl⟩ | ⟨-, hold⟩
    · rfl
    · exact h.member_key key found hold
  · intro key found hfound
    rcases insert_some hfound with ⟨rfl, rfl⟩ | ⟨-, hold⟩
    · exact ⟨user, huser⟩
    · exact h.member_user key found hold
  · intro key found hfound
    rcases insert_some hfound with ⟨rfl, rfl⟩ | ⟨-, hold⟩
    · exact ⟨organization, horganization, htenant⟩
    · exact h.member_tenant key found hold
  · intro id found hfound organizationId hdefault
    obtain ⟨old, hold⟩ := h.default_organization id found hfound organizationId hdefault
    by_cases heq : (id, organizationId) = (member.principalId, member.organizationId)
    · exact ⟨member, by rw [heq]; exact AList.lookup_insert _⟩
    · exact ⟨old, by rw [AList.lookup_insert_ne heq, hold]⟩

theorem Consistent.put_assigned (h : Consistent s) (member : ProjectMembershipRecord) {user : UserRecord}
    {project : ProjectRecord} (huser : s.users.lookup member.principalId = some user)
    (hproject : s.projects.lookup member.projectId = some project)
    (horganization : project.organizationId = member.organizationId) (htenant : project.tenantId = member.tenantId) :
    Consistent { s with
      projectMemberships := s.projectMemberships.insert (member.principalId, member.projectId) member } := by
  refine { h with assigned_key := ?_, assigned_user := ?_, assigned_project := ?_, default_project := ?_ }
  · intro key found hfound
    rcases insert_some hfound with ⟨rfl, rfl⟩ | ⟨-, hold⟩
    · rfl
    · exact h.assigned_key key found hold
  · intro key found hfound
    rcases insert_some hfound with ⟨rfl, rfl⟩ | ⟨-, hold⟩
    · exact ⟨user, huser⟩
    · exact h.assigned_user key found hold
  · intro key found hfound
    rcases insert_some hfound with ⟨rfl, rfl⟩ | ⟨-, hold⟩
    · exact ⟨project, hproject, horganization, htenant⟩
    · exact h.assigned_project key found hold
  · intro id found hfound projectId hdefault
    obtain ⟨old, hold⟩ := h.default_project id found hfound projectId hdefault
    by_cases heq : (id, projectId) = (member.principalId, member.projectId)
    · exact ⟨member, by rw [heq]; exact AList.lookup_insert _⟩
    · exact ⟨old, by rw [AList.lookup_insert_ne heq, hold]⟩

theorem Consistent.put_invitation (h : Consistent s) {id : String} {invitation : OrganizationInvitationRecord}
    {organization : OrganizationRecord}
    (horganization : s.organizations.lookup invitation.organizationId = some organization)
    (htenant : organization.tenantId = invitation.tenantId)
    (hproject : ∀ projectId, invitation.projectId = some projectId → ∃ project,
      s.projects.lookup projectId = some project ∧ project.organizationId = invitation.organizationId ∧
        project.tenantId = invitation.tenantId) :
    Consistent { s with organizationInvitations := s.organizationInvitations.insert id invitation } := by
  refine { h with invited_organization := ?_, invited_project := ?_ }
  · intro key found hfound
    rcases insert_some hfound with ⟨-, rfl⟩ | ⟨-, hold⟩
    · exact ⟨organization, horganization, htenant⟩
    · exact h.invited_organization key found hold
  · intro key found hfound
    rcases insert_some hfound with ⟨-, rfl⟩ | ⟨-, hold⟩
    · exact hproject
    · exact h.invited_project key found hold

theorem Consistent.put_user (h : Consistent s) (user : UserRecord)
    (horganization : ∀ organizationId, user.defaultOrganizationId = some organizationId →
      ∃ member, s.organizationMemberships.lookup (user.userId, organizationId) = some member)
    (hproject : ∀ projectId, user.defaultProjectId = some projectId →
      ∃ member, s.projectMemberships.lookup (user.userId, projectId) = some member) :
    Consistent { s with users := s.users.insert user.userId user } := by
  have hknown : ∀ id found, s.users.lookup id = some found →
      ∃ user', (s.users.insert user.userId user).lookup id = some user' := by
    intro id found hfound
    by_cases heq : id = user.userId
    · exact ⟨user, by rw [heq, AList.lookup_insert]⟩
    · exact ⟨found, by rw [AList.lookup_insert_ne heq, hfound]⟩
  refine { h with
    user_named := ?_, member_user := ?_, assigned_user := ?_, default_organization := ?_, default_project := ?_ }
  · intro id found hfound
    rcases insert_some hfound with ⟨rfl, rfl⟩ | ⟨-, hold⟩
    · rfl
    · exact h.user_named id found hold
  · intro key member hmember
    obtain ⟨found, hfound⟩ := h.member_user key member hmember
    exact hknown _ _ hfound
  · intro key member hmember
    obtain ⟨found, hfound⟩ := h.assigned_user key member hmember
    exact hknown _ _ hfound
  · intro id found hfound
    rcases insert_some hfound with ⟨rfl, rfl⟩ | ⟨-, hold⟩
    · exact horganization
    · exact h.default_organization id found hold
  · intro id found hfound
    rcases insert_some hfound with ⟨rfl, rfl⟩ | ⟨-, hold⟩
    · exact hproject
    · exact h.default_project id found hold

theorem Backed.put_active (h : Backed s) {member : OrganizationMembershipRecord} (hactive : member.status = .active) :
    Backed { s with
      organizationMemberships :=
        s.organizationMemberships.insert (member.principalId, member.organizationId) member } := by
  intro key assigned hassigned hassignedActive
  obtain ⟨old, hold, holdActive⟩ := h key assigned hassigned hassignedActive
  by_cases heq : (assigned.principalId, assigned.organizationId) = (member.principalId, member.organizationId)
  · exact ⟨member, by rw [heq]; exact AList.lookup_insert _, hactive⟩
  · exact ⟨old, by rw [AList.lookup_insert_ne heq, hold], holdActive⟩

theorem Backed.put_assigned (h : Backed s) (member : ProjectMembershipRecord)
    (hbacked : member.status = .active → ActiveMember s member.principalId member.organizationId) :
    Backed { s with
      projectMemberships := s.projectMemberships.insert (member.principalId, member.projectId) member } := by
  intro key found hfound hactive
  rcases insert_some hfound with ⟨rfl, rfl⟩ | ⟨-, hold⟩
  · exact hbacked hactive
  · exact h key found hold hactive

theorem Consistent.cascade (h : Consistent s) (organizationMember : OrganizationMembershipRecord)
    (status : MembershipStatus) :
    Consistent { s with
      projectMemberships := mapValues (cascadeMember organizationMember status) s.projectMemberships } := by
  have hscope : ∀ member, (cascadeMember organizationMember status member).principalId = member.principalId ∧
      (cascadeMember organizationMember status member).projectId = member.projectId ∧
      (cascadeMember organizationMember status member).organizationId = member.organizationId ∧
      (cascadeMember organizationMember status member).tenantId = member.tenantId := by
    intro member
    unfold cascadeMember
    split <;> exact ⟨rfl, rfl, rfl, rfl⟩
  refine { h with assigned_key := ?_, assigned_user := ?_, assigned_project := ?_, default_project := ?_ }
  · intro key found hfound
    rw [lookup_mapValues] at hfound
    obtain ⟨old, hold, rfl⟩ := Option.map_eq_some_iff.mp hfound
    rw [(hscope old).1, (hscope old).2.1]
    exact h.assigned_key key old hold
  · intro key found hfound
    rw [lookup_mapValues] at hfound
    obtain ⟨old, hold, rfl⟩ := Option.map_eq_some_iff.mp hfound
    rw [(hscope old).1]
    exact h.assigned_user key old hold
  · intro key found hfound
    rw [lookup_mapValues] at hfound
    obtain ⟨old, hold, rfl⟩ := Option.map_eq_some_iff.mp hfound
    obtain ⟨-, hproject, horganization, htenant⟩ := hscope old
    rw [hproject, horganization, htenant]
    exact h.assigned_project key old hold
  · intro id user huser projectId hdefault
    obtain ⟨old, hold⟩ := h.default_project id user huser projectId hdefault
    exact ⟨cascadeMember organizationMember status old, by rw [lookup_mapValues, hold, Option.map_some]⟩

/-- An organization membership may be written with any status once its project memberships have followed it. -/
theorem Backed.put_member_cascade (h : Backed s) (hconsistent : Consistent s) {member : OrganizationMembershipRecord}
    {organization : OrganizationRecord}
    (horganization : s.organizations.lookup member.organizationId = some organization)
    (htenant : organization.tenantId = member.tenantId) :
    Backed { s with
      organizationMemberships := s.organizationMemberships.insert (member.principalId, member.organizationId) member
      projectMemberships := mapValues (cascadeMember member member.status) s.projectMemberships } := by
  intro key found hfound hactive
  rw [lookup_mapValues] at hfound
  obtain ⟨old, hold, rfl⟩ := Option.map_eq_some_iff.mp hfound
  obtain ⟨project, hproject, hprojectOrganization, hprojectTenant⟩ := hconsistent.assigned_project key old hold
  by_cases hcascades : cascadesTo member member.status old = true
  · -- the cascade never reaches a membership with the status active
    rw [cascadeMember, if_pos hcascades] at hactive
    simp only at hactive
    rw [hactive] at hcascades
    simp [cascadesTo] at hcascades
  rw [cascadeMember, if_neg hcascades] at hactive ⊢
  obtain ⟨backing, hbacking, hbackingActive⟩ := h key old hold hactive
  by_cases heq : (old.principalId, old.organizationId) = (member.principalId, member.organizationId)
  · refine ⟨member, by rw [heq]; exact AList.lookup_insert _, ?_⟩
    rw [Prod.mk.injEq] at heq
    have hsameTenant : old.tenantId = member.tenantId := by
      obtain ⟨owner, howner, hownerTenant⟩ := hconsistent.project_tenant _ _ hproject
      rw [hprojectOrganization, heq.2, horganization, Option.some.injEq] at howner
      rw [← hprojectTenant, ← hownerTenant, ← howner, htenant]
    cases hstatus : member.status with
    | active => rfl
    | suspended => simp [cascadesTo, hsameTenant, heq, hstatus, hactive] at hcascades
    | removed => simp [cascadesTo, hsameTenant, heq, hstatus, hactive] at hcascades
  · exact ⟨backing, by rw [AList.lookup_insert_ne heq, hbacking], hbackingActive⟩

end Writes

/-- The invariant of the membership operations. -/
structure MembershipsSound (s : TenancyStore) : Prop where
  consistent : Consistent s
  backed : Backed s

section Operations

variable {env : AuthEnv} {s t : TenancyStore}

theorem MembershipsSound.of_same (h : MembershipsSound s) (hsame : SameDirectory s t) : MembershipsSound t :=
  ⟨h.consistent.of_same hsame, h.backed.of_same hsame⟩

theorem idempotencyResponse_same (s : TenancyStore) (tenantId scopeKey requestHash : String) (now : DateTime) :
    SameDirectory s (s.idempotencyResponse tenantId scopeKey requestHash now).2 := by
  unfold TenancyStore.idempotencyResponse
  split
  · exact .refl s
  · split
    · exact ⟨rfl, rfl, rfl, rfl, rfl, rfl⟩
    · split <;> exact .refl s

theorem projectForActor_ok {actor : AuthenticatedActor} {projectId : String} {project : ProjectRecord}
    (h : projectForActor s actor projectId = .ok project) :
    s.projects.lookup projectId = some project ∧ project.tenantId = actor.tenantId := by
  unfold projectForActor at h
  split at h
  · cases h
  · rename_i found hfound
    cases h
    exact filter_tenant_some hfound

theorem organizationForActor_ok {actor : AuthenticatedActor} {organizationId : String}
    {organization : OrganizationRecord} (h : organizationForActor s actor organizationId = .ok organization) :
    s.organizations.lookup organizationId = some organization ∧ organization.tenantId = actor.tenantId := by
  unfold organizationForActor at h
  split at h
  · cases h
  · rename_i found hfound
    cases h
    exact filter_tenant_some hfound

theorem userForActor_ok {actor : AuthenticatedActor} {userId : String} {user : UserRecord}
    (h : userForActor s actor userId = .ok user) : s.users.lookup userId = some user := by
  unfold userForActor at h
  split at h
  · cases h
  · rename_i found hfound
    cases h
    exact (filter_tenant_some hfound).1

theorem projectMemberForActor_ok {actor : AuthenticatedActor} {projectId projectMemberId : String}
    {member : ProjectMembershipRecord} (h : projectMemberForActor s actor projectId projectMemberId = .ok member) :
    s.projectMember projectMemberId = some member := by
  obtain ⟨_, -, h⟩ := bind_ok.mp h
  split at h
  · cases h
  · rename_i found hfound
    cases h
    exact (Option.filter_eq_some_iff.mp hfound).1

theorem organizationMember_some {organizationMemberId : String} {member : OrganizationMembershipRecord}
    (h : s.organizationMember organizationMemberId = some member) :
    ∃ key, s.organizationMemberships.lookup key = some member := by
  obtain ⟨⟨key, found⟩, hfound, rfl⟩ := Option.map_eq_some_iff.mp h
  exact ⟨key, (findValue_some hfound).1⟩

theorem activeOrganizationMember_active {actor : AuthenticatedActor} {organizationId principalId : String}
    {organizationMemberId : Option String} {member : OrganizationMembershipRecord} (hconsistent : Consistent s)
    (h : activeOrganizationMemberForProjectAssignment s actor organizationId principalId organizationMemberId =
      .ok member) : ActiveMember s principalId organizationId := by
  unfold activeOrganizationMemberForProjectAssignment at h
  have hactive : ∀ key found, s.organizationMemberships.lookup key = some found → found.principalId = principalId →
      found.organizationId = organizationId → found.status.acceptsAccess = true →
      ActiveMember s principalId organizationId := by
    intro key found hlookup hprincipal horganization hstatus
    have hkey := hconsistent.member_key key found hlookup
    rw [hprincipal, horganization] at hkey
    exact ⟨found, by rw [← hkey, hlookup], by simpa using hstatus⟩
  split at h
  · obtain ⟨found, hfound, h⟩ := bind_ok.mp h
    split at h
    · rename_i hmember
      obtain ⟨_, -, hfound⟩ := bind_ok.mp hfound
      split at hfound
      · cases hfound
      · rename_i member' hfiltered
        cases hfound
        obtain ⟨hlookup, hfits⟩ := Option.filter_eq_some_iff.mp hfiltered
        obtain ⟨key, hkey⟩ := organizationMember_some hlookup
        simp only [Bool.and_eq_true, beq_iff_eq] at hfits
        exact hactive key _ hkey hmember.1 hfits.2 hmember.2
    · cases h
  · split at h
    · cases h
    · rename_i found hfound
      obtain ⟨⟨key, hkey⟩, hprincipal⟩ := mem_organizationMembershipsForPrincipal.mp (List.mem_of_find?_eq_some hfound)
      have hfits := List.find?_some hfound
      simp only [Bool.and_eq_true, beq_iff_eq] at hfits
      exact hactive key found hkey hprincipal hfits.1.2 hfits.2

theorem createProjectMembership_cases (s : TenancyStore) (request : CreateProjectMembershipRequest)
    (projectMemberId : String) :
    (createProjectMembership s request projectMemberId).2 = s ∨
      ∃ member : ProjectMembershipRecord, member.tenantId = request.tenantId ∧
        member.organizationId = request.organizationId ∧ member.projectId = request.projectId ∧
        member.principalId = request.principalId ∧
        (createProjectMembership s request projectMemberId).2 =
          { s with
            projectMemberships := s.projectMemberships.insert (request.principalId, request.projectId) member } := by
  unfold createProjectMembership
  simp only
  split
  · exact .inl rfl
  · rename_i hscope
    simp only [ne_eq, not_or, not_not] at hscope
    obtain ⟨htenant, horganization, hproject, hprincipal⟩ := hscope
    right
    split
    · refine ⟨_, ?_, ?_, ?_, ?_, rfl⟩
      · exact htenant
      · exact horganization
      · exact hproject
      · exact hprincipal
    · exact ⟨_, htenant, horganization, hproject, hprincipal, rfl⟩

/-- What an assignment that is accepted knows of its project, its user and its organization membership. -/
theorem projectAssignment_ok {call : AdminCall} {projectId : String} {request : AdminCreateProjectMemberRequest}
    {project : ProjectRecord} {user : UserRecord} {organizationMember : OrganizationMembershipRecord}
    (hconsistent : Consistent s)
    (h : projectAssignment s call projectId request = .ok (project, user, organizationMember)) :
    s.projects.lookup project.projectId = some project ∧ project.tenantId = call.actor.tenantId ∧
      s.users.lookup user.userId = some user ∧ ActiveMember s user.userId project.organizationId := by
  obtain ⟨found, hproject, h⟩ := bind_ok.mp h
  split at h
  · cases h
  obtain ⟨foundUser, huser, h⟩ := bind_ok.mp h
  split at h
  · cases h
  obtain ⟨foundMember, hmember, h⟩ := bind_ok.mp h
  obtain ⟨_, -, h⟩ := bind_ok.mp h
  cases h
  obtain ⟨hlookup, htenant⟩ := projectForActor_ok hproject
  have huserLookup := userForActor_ok huser
  refine ⟨?_, htenant, ?_, activeOrganizationMember_active hconsistent hmember⟩
  · rw [hconsistent.project_named _ _ hlookup, hlookup]
  · rw [hconsistent.user_named _ _ huserLookup, huserLookup]

theorem createProjectMembership_sound {request : CreateProjectMembershipRequest} {project : ProjectRecord}
    {user : UserRecord} (projectMemberId : String) (h : MembershipsSound s)
    (hproject : s.projects.lookup request.projectId = some project)
    (hscope : project.organizationId = request.organizationId) (htenant : project.tenantId = request.tenantId)
    (huser : s.users.lookup request.principalId = some user)
    (hactive : ActiveMember s request.principalId request.organizationId) :
    MembershipsSound (createProjectMembership s request projectMemberId).2 := by
  rcases createProjectMembership_cases s request projectMemberId with hkept | ⟨member, hmemberTenant,
    hmemberOrganization, hmemberProject, hmemberPrincipal, hwritten⟩
  · rw [hkept]
    exact h
  · rw [hwritten, ← hmemberPrincipal, ← hmemberProject]
    rw [← hmemberPrincipal] at huser hactive
    rw [← hmemberProject] at hproject
    rw [← hmemberOrganization] at hactive
    constructor
    · exact h.consistent.put_assigned member huser hproject (hscope.trans hmemberOrganization.symm)
        (htenant.trans hmemberTenant.symm)
    · exact h.backed.put_assigned member fun _ => hactive

theorem createProjectMember_sound {call : AdminCall} {projectId requestHash projectMemberId : String}
    {request : AdminCreateProjectMemberRequest} (h : MembershipsSound s) :
    MembershipsSound (createProjectMember s call projectId request requestHash projectMemberId).2 := by
  unfold createProjectMember
  split
  · exact h
  rename_i project user organizationMember hassignment
  obtain ⟨hproject, htenant, huser, hactive⟩ := projectAssignment_ok h.consistent hassignment
  have hsame := idempotencyResponse_same s call.actor.tenantId
    s!"project_members:create:{project.projectId}:{request.idempotencyKey}" requestHash call.now
  simp only
  generalize s.idempotencyResponse _ _ _ _ = looked at hsame ⊢
  obtain ⟨response, store⟩ := looked
  have hstore : MembershipsSound store := h.of_same hsame
  match response with
  | .error error => exact hstore
  | .ok true => exact hstore
  | .ok false =>
    simp only
    have hmembership : MembershipsSound (createProjectMembership store ⟨call.actor.tenantId, project.organizationId,
        project.projectId, user.userId, organizationMember.organizationMemberId⟩ projectMemberId).2 := by
      refine createProjectMembership_sound projectMemberId hstore (hsame.projects ▸ hproject) rfl htenant
        (hsame.users ▸ huser) ?_
      unfold ActiveMember
      rw [hsame.organizationMemberships]
      exact hactive
    split
    · rename_i hcreated
      rw [hcreated] at hmembership
      exact hmembership
    · rename_i hcreated
      rw [hcreated] at hmembership
      exact hmembership.of_same ⟨rfl, rfl, rfl, rfl, rfl, rfl⟩

theorem updateProjectMember_sound {call : AdminCall} {projectId projectMemberId : String} {expectedVersion : Int}
    {status : MembershipStatus} (h : MembershipsSound s)
    (hactivation : status = .active → call.authorized = .ok () → ∀ member,
      projectMemberForActor s call.actor projectId projectMemberId = .ok member →
        member.resourceVersion = expectedVersion → ActiveMember s member.principalId member.organizationId) :
    MembershipsSound (s.orKeep Prod.snd (updateProjectMember s call projectId projectMemberId expectedVersion status)) := by
  cases hupdate : updateProjectMember s call projectId projectMemberId expectedVersion status with
  | error error => exact h
  | ok result =>
    obtain ⟨_, hauthorized, hupdate⟩ := bind_ok.mp hupdate
    obtain ⟨before, hbefore, hupdate⟩ := bind_ok.mp hupdate
    unfold updateProjectMemberStatus at hupdate
    split at hupdate
    · cases hupdate
    rename_i key member hfound
    have hsame := projectMemberForActor_ok hbefore
    rw [TenancyStore.projectMember, hfound] at hsame
    cases hsame
    split at hupdate
    · cases hupdate
    rename_i hversion
    cases hupdate
    obtain ⟨hlookup, -⟩ := findValue_some hfound
    obtain ⟨user, huser⟩ := h.consistent.assigned_user key member hlookup
    obtain ⟨project, hproject, horganization, htenant⟩ := h.consistent.assigned_project key member hlookup
    simp only [TenancyStore.orKeep]
    rw [h.consistent.assigned_key key member hlookup]
    constructor
    · exact h.consistent.put_assigned { member with status, resourceVersion := member.resourceVersion + 1 } huser
        hproject horganization htenant
    · refine h.backed.put_assigned { member with status, resourceVersion := member.resourceVersion + 1 }
        fun hactive => ?_
      exact hactivation hactive hauthorized member hbefore (not_not.mp hversion)

theorem updateOrganizationMember_sound {call : AdminCall} {organizationId organizationMemberId : String}
    {expectedVersion : Int} {status : MembershipStatus} (h : MembershipsSound s) :
    MembershipsSound (s.orKeep (fun result => result.2.2)
      (updateOrganizationMember s call organizationId organizationMemberId expectedVersion status)) := by
  cases hupdate : updateOrganizationMember s call organizationId organizationMemberId expectedVersion status with
  | error error => exact h
  | ok result =>
    obtain ⟨_, -, hupdate⟩ := bind_ok.mp hupdate
    obtain ⟨_, -, hupdate⟩ := bind_ok.mp hupdate
    obtain ⟨⟨updated, store⟩, hstatus, hupdate⟩ := bind_ok.mp hupdate
    cases hupdate
    unfold updateOrganizationMemberStatus at hstatus
    split at hstatus
    · cases hstatus
    rename_i key member hfound
    split at hstatus
    · cases hstatus
    obtain ⟨hlookup, -⟩ := findValue_some hfound
    obtain ⟨user, huser⟩ := h.consistent.member_user key member hlookup
    obtain ⟨organization, horganization, htenant⟩ := h.consistent.member_tenant key member hlookup
    have hkey := h.consistent.member_key key member hlookup
    cases hstatus
    simp only [TenancyStore.orKeep]
    rw [hkey]
    exact ⟨(h.consistent.put_member { member with status, resourceVersion := member.resourceVersion + 1 }
      huser horganization htenant).cascade _ _, h.backed.put_member_cascade h.consistent horganization htenant⟩

theorem createOrganizationInvitation_sound {call : AdminCall} {organizationId requestHash invitationId rawToken : String}
    {request : AdminCreateOrganizationInvitationRequest} (h : MembershipsSound s) :
    MembershipsSound
      (createOrganizationInvitation env s call organizationId request requestHash invitationId rawToken).2 := by
  unfold createOrganizationInvitation
  split
  · exact h
  rename_i organization horganization
  obtain ⟨_, -, horganization⟩ := bind_ok.mp horganization
  obtain ⟨_, -, horganization⟩ := bind_ok.mp horganization
  obtain ⟨found, hfound, horganization⟩ := bind_ok.mp horganization
  split at horganization
  · cases horganization
  cases horganization
  obtain ⟨hlookup, htenant⟩ := organizationForActor_ok hfound
  have hid := h.consistent.organization_named _ _ hlookup
  have hsame := idempotencyResponse_same s call.actor.tenantId
    s!"organization_invitations:create:{organizationId}:{request.idempotencyKey}" requestHash call.now
  simp only
  generalize s.idempotencyResponse _ _ _ _ = looked at hsame ⊢
  obtain ⟨response, store⟩ := looked
  have hstore : MembershipsSound store := h.of_same hsame
  match response with
  | .error error => exact hstore
  | .ok true => exact hstore
  | .ok false =>
    simp only
    split
    · exact hstore
    rename_i hvalid
    rw [ne_eq, not_not] at hvalid
    have hproject : ∀ projectId, request.projectId = some projectId → ∃ project,
        store.projects.lookup projectId = some project ∧ project.organizationId = organization.organizationId ∧
          project.tenantId = call.actor.tenantId := by
      intro projectId hrequested
      unfold organizationInvitationValidationErrors at hvalid
      obtain ⟨-, hvalid⟩ := List.append_eq_nil_iff.mp hvalid
      split at hvalid
      · rename_i hprojectValid
        rw [hrequested, Option.all_some, Option.any_eq_true] at hprojectValid
        obtain ⟨project, hproject, hfits⟩ := hprojectValid
        simp only [Bool.and_eq_true, beq_iff_eq] at hfits
        exact ⟨project, hproject, hfits.1.2, hfits.1.1⟩
      · cases hvalid
    have hknown : store.organizations.lookup organization.organizationId = some organization := by
      rw [hid, hsame.organizations, hlookup]
    refine MembershipsSound.of_same ⟨hstore.consistent.put_invitation ?_ htenant ?_, hstore.backed⟩
      ⟨rfl, rfl, rfl, rfl, rfl, rfl⟩
    · exact hknown
    · exact hproject

theorem upsertInvitedOrganizationMembership_eq {invitation : OrganizationInvitationRecord}
    {organization : OrganizationRecord} (principalId organizationMemberId : String) (h : Consistent s)
    (horganization : s.organizations.lookup invitation.organizationId = some organization)
    (htenant : organization.tenantId = invitation.tenantId) :
    ∃ member : OrganizationMembershipRecord, member.principalId = principalId ∧
      member.organizationId = invitation.organizationId ∧ member.status = .active ∧
      organization.tenantId = member.tenantId ∧
      upsertInvitedOrganizationMembership s invitation principalId organizationMemberId =
        (member, { s with
          organizationMemberships :=
            s.organizationMemberships.insert (principalId, invitation.organizationId) member }) := by
  unfold upsertInvitedOrganizationMembership
  simp only
  have hscope : ∃ member : OrganizationMembershipRecord,
      (s.organizationMemberships.lookup (principalId, invitation.organizationId)).getD ⟨organizationMemberId,
        invitation.tenantId, invitation.organizationId, principalId, .active, 1⟩ = member ∧
      member.principalId = principalId ∧ member.organizationId = invitation.organizationId ∧
      organization.tenantId = member.tenantId := by
    cases hlookup : s.organizationMemberships.lookup (principalId, invitation.organizationId) with
    | none => exact ⟨_, rfl, rfl, rfl, htenant⟩
    | some member =>
      have hkey := h.member_key _ _ hlookup
      rw [Prod.mk.injEq] at hkey
      obtain ⟨owner, howner, hownerTenant⟩ := h.member_tenant _ _ hlookup
      rw [← hkey.2, horganization, Option.some.injEq] at howner
      rw [← howner] at hownerTenant
      exact ⟨member, rfl, hkey.1.symm, hkey.2.symm, hownerTenant⟩
  obtain ⟨member, hmember, hprincipal, horganization, htenant⟩ := hscope
  rw [hmember]
  refine ⟨_, ?_, ?_, ?_, ?_, rfl⟩
  · split <;> assumption
  · split <;> assumption
  · split
    · rfl
    · rename_i hactive
      simpa using hactive
  · split <;> assumption

theorem upsertInvitedProjectMembership_eq {invitation : OrganizationInvitationRecord} {project : ProjectRecord}
    {projectId : String} (principalId organizationMemberId projectMemberId : String) (h : Consistent s)
    (hproject : s.projects.lookup projectId = some project)
    (horganization : project.organizationId = invitation.organizationId)
    (htenant : project.tenantId = invitation.tenantId) :
    ∃ member : ProjectMembershipRecord, member.principalId = principalId ∧ member.projectId = projectId ∧
      project.organizationId = member.organizationId ∧ project.tenantId = member.tenantId ∧
      upsertInvitedProjectMembership s invitation principalId projectId organizationMemberId projectMemberId =
        { s with projectMemberships := s.projectMemberships.insert (principalId, projectId) member } := by
  unfold upsertInvitedProjectMembership
  simp only
  have hscope : ∃ member : ProjectMembershipRecord,
      (s.projectMemberships.lookup (principalId, projectId)).getD ⟨projectMemberId, invitation.tenantId,
        invitation.organizationId, projectId, principalId, some organizationMemberId, .active, 1⟩ = member ∧
      member.principalId = principalId ∧ member.projectId = projectId ∧
      project.organizationId = member.organizationId ∧ project.tenantId = member.tenantId := by
    cases hlookup : s.projectMemberships.lookup (principalId, projectId) with
    | none => exact ⟨_, rfl, rfl, rfl, horganization, htenant⟩
    | some member =>
      have hkey := h.assigned_key _ _ hlookup
      rw [Prod.mk.injEq] at hkey
      obtain ⟨owner, howner, hownerOrganization, hownerTenant⟩ := h.assigned_project _ _ hlookup
      rw [← hkey.2, hproject, Option.some.injEq] at howner
      rw [← howner] at hownerOrganization hownerTenant
      exact ⟨member, rfl, hkey.1.symm, hkey.2.symm, hownerOrganization, hownerTenant⟩
  obtain ⟨member, hmember, hprincipal, hproject, horganization, htenant⟩ := hscope
  rw [hmember]
  refine ⟨_, ?_, ?_, ?_, ?_, rfl⟩ <;> split <;> split <;> assumption

theorem upsertInvitedOrganizationMembership_sound {invitation : OrganizationInvitationRecord}
    {organization : OrganizationRecord} {user : UserRecord} {principalId : String} (organizationMemberId : String)
    (h : MembershipsSound s) (huser : s.users.lookup principalId = some user)
    (horganization : s.organizations.lookup invitation.organizationId = some organization)
    (htenant : organization.tenantId = invitation.tenantId) :
    ∃ member memberships, upsertInvitedOrganizationMembership s invitation principalId organizationMemberId =
        (member, { s with organizationMemberships := memberships }) ∧
      MembershipsSound { s with organizationMemberships := memberships } ∧
      ActiveMember { s with organizationMemberships := memberships } principalId invitation.organizationId := by
  obtain ⟨member, rfl, hmember, hactive, hmemberTenant, hupsert⟩ :=
    upsertInvitedOrganizationMembership_eq principalId organizationMemberId h.consistent horganization htenant
  rw [← hmember] at hupsert horganization ⊢
  exact ⟨member, _, hupsert, ⟨h.consistent.put_member member huser horganization hmemberTenant, h.backed.put_active hactive⟩,
    member, AList.lookup_insert _, hactive⟩

theorem upsertInvitedProjectMembership_sound {invitation : OrganizationInvitationRecord} {project : ProjectRecord}
    {user : UserRecord} {principalId projectId : String} (organizationMemberId projectMemberId : String)
    (h : MembershipsSound s) (huser : s.users.lookup principalId = some user)
    (hproject : s.projects.lookup projectId = some project)
    (horganization : project.organizationId = invitation.organizationId)
    (htenant : project.tenantId = invitation.tenantId)
    (hactive : ActiveMember s principalId invitation.organizationId) :
    ∃ memberships, upsertInvitedProjectMembership s invitation principalId projectId organizationMemberId
        projectMemberId = { s with projectMemberships := memberships } ∧
      MembershipsSound { s with projectMemberships := memberships } ∧
      ∃ member, memberships.lookup (principalId, projectId) = some member := by
  obtain ⟨member, rfl, rfl, hmemberOrganization, hmemberTenant, hupsert⟩ :=
    upsertInvitedProjectMembership_eq principalId organizationMemberId projectMemberId h.consistent hproject
      horganization htenant
  refine ⟨_, hupsert, ⟨h.consistent.put_assigned member huser hproject hmemberOrganization hmemberTenant,
    h.backed.put_assigned member fun _ => ?_⟩, member, AList.lookup_insert _⟩
  rw [← hmemberOrganization, horganization]
  exact hactive

theorem repairUserDefaults_sound {invitation : OrganizationInvitationRecord} {principalId : String}
    (h : MembershipsSound s)
    (horganization : ∃ member, s.organizationMemberships.lookup (principalId, invitation.organizationId) = some member)
    (hproject : ∀ projectId, invitation.projectId = some projectId →
      ∃ member, s.projectMemberships.lookup (principalId, projectId) = some member) :
    MembershipsSound (repairUserDefaultsAfterInviteAccept s invitation principalId) := by
  unfold repairUserDefaultsAfterInviteAccept
  split
  · exact h
  rename_i user huser
  obtain rfl := h.consistent.user_named _ _ huser
  refine ⟨h.consistent.put_user { user with
    defaultOrganizationId := user.defaultOrganizationId.or (some invitation.organizationId)
    defaultProjectId := user.defaultProjectId.or invitation.projectId
    resourceVersion := _ } ?_ ?_, h.backed⟩
  · intro organizationId hdefault
    rcases Option.or_eq_some_iff.mp hdefault with hold | ⟨-, hnew⟩
    · exact h.consistent.default_organization _ _ huser _ hold
    · rw [← Option.some.inj hnew]
      exact horganization
  · intro projectId hdefault
    rcases Option.or_eq_some_iff.mp hdefault with hold | ⟨-, hnew⟩
    · exact h.consistent.default_project _ _ huser _ hold
    · exact hproject projectId hnew

theorem acceptOrganizationInvitation_sound {invitationId principalId organizationMemberId projectMemberId : String}
    {now : DateTime} {accepted : OrganizationInvitationRecord} {user : UserRecord} (h : MembershipsSound s)
    (huser : s.users.lookup principalId = some user)
    (hok : acceptOrganizationInvitation s invitationId principalId now organizationMemberId projectMemberId =
      .ok (accepted, t)) : MembershipsSound t := by
  unfold acceptOrganizationInvitation at hok
  split at hok
  · cases hok
  rename_i invitation hinvitation
  split at hok
  · cases hok
  obtain ⟨organization, horganization, htenant⟩ := h.consistent.invited_organization _ _ hinvitation
  have hprojects := h.consistent.invited_project _ _ hinvitation
  obtain ⟨acceptedInvitation, haccepted⟩ : ∃ accepted : OrganizationInvitationRecord,
      accepted = { invitation with status := .accepted, resourceVersion := invitation.resourceVersion + 1 } := ⟨_, rfl⟩
  simp only [← haccepted] at hok
  have hscope : acceptedInvitation.organizationId = invitation.organizationId ∧
      acceptedInvitation.tenantId = invitation.tenantId ∧ acceptedInvitation.projectId = invitation.projectId := by
    rw [haccepted]
    exact ⟨rfl, rfl, rfl⟩
  rw [← hscope.1] at horganization
  rw [← hscope.2.1] at htenant
  rw [← hscope.1, ← hscope.2.1, ← hscope.2.2] at hprojects
  -- the invitation is marked, then the two memberships are written, then the defaults of the user
  have hmarked : MembershipsSound
      { s with organizationInvitations := s.organizationInvitations.insert invitationId acceptedInvitation } :=
    ⟨h.consistent.put_invitation horganization htenant hprojects, h.backed⟩
  obtain ⟨member, memberships, hupsert, hjoined, hactive⟩ :=
    upsertInvitedOrganizationMembership_sound organizationMemberId hmarked huser horganization htenant
  rw [hupsert, ← hscope.2.2] at hok
  obtain ⟨backing, hbacking, -⟩ := id hactive
  cases hproject : acceptedInvitation.projectId with
  | none =>
    simp only [hproject] at hok
    cases hok
    exact repairUserDefaults_sound hjoined ⟨backing, hbacking⟩ (by simp [hproject])
  | some projectId =>
    simp only [hproject] at hok
    obtain ⟨project, hlookup, hprojectOrganization, hprojectTenant⟩ := hprojects projectId hproject
    obtain ⟨assigned, hassign, hassigned, hmember⟩ :=
      upsertInvitedProjectMembership_sound member.organizationMemberId projectMemberId hjoined huser hlookup
        hprojectOrganization hprojectTenant hactive
    rw [hassign] at hok
    cases hok
    refine repairUserDefaults_sound hassigned ⟨backing, hbacking⟩ ?_
    intro requested hrequested
    rw [hproject, Option.some.injEq] at hrequested
    rw [← hrequested]
    exact hmember

theorem verifyAuthSessionFromHeaders_user {headers : HeaderMap} {now : DateTime} {session : AuthSessionRecord}
    (h : verifyAuthSessionFromHeaders env s headers now = .ok session) :
    ∃ user, s.users.lookup session.principalId = some user := by
  obtain ⟨token, -, h⟩ := bind_ok.mp h
  split at h
  · cases h
  obtain ⟨found, -, h⟩ := bind_ok.mp h
  split at h
  · cases h
  rename_i user huser
  split at h
  · cases h
  cases h
  exact ⟨user, huser⟩

theorem acceptAuthInvitation_sound {headers : HeaderMap} {token organizationMemberId projectMemberId : String}
    {now : DateTime} (h : MembershipsSound s) :
    MembershipsSound (acceptAuthInvitation env s headers token now organizationMemberId projectMemberId).2 := by
  unfold acceptAuthInvitation
  split
  · exact h
  rename_i session accepted store hok
  obtain ⟨found, hsession, hok⟩ := bind_ok.mp hok
  obtain ⟨invitation, -, hok⟩ := bind_ok.mp hok
  obtain ⟨_, -, hok⟩ := bind_ok.mp hok
  obtain ⟨⟨accepted', store'⟩, haccepted, hok⟩ := bind_ok.mp hok
  cases hok
  obtain ⟨verified, hverified, hcsrf⟩ := bind_ok.mp hsession
  have hsame : verified = session := by
    split at hcsrf
    · split at hcsrf
      · exact Except.ok.inj hcsrf
      · cases hcsrf
    · cases hcsrf
  obtain ⟨user, huser⟩ := verifyAuthSessionFromHeaders_user hverified
  rw [hsame] at huser
  have hstore := acceptOrganizationInvitation_sound h huser haccepted
  have hcontext : SameDirectory store (updateSessionActiveContextByHash store session.sessionHash
      (some accepted.organizationId) accepted.projectId now).2 := by
    unfold updateSessionActiveContextByHash
    split
    · exact .refl store
    · split
      · exact .refl store
      · exact ⟨rfl, rfl, rfl, rfl, rfl, rfl⟩
  split
  · rename_i heq
    rw [heq] at hcontext
    exact hstore.of_same hcontext
  · rename_i heq
    rw [heq] at hcontext
    exact hstore.of_same hcontext

end Operations

section Seeds

variable {s : TenancyStore}

theorem validateEntry_ok {κ ν : Type} [DecidableEq κ] {map : AList (fun _ : κ => ν)} {key : κ} {value : ν}
    {isMatch : ν → ν → Bool} {reason : String} (h : validateEntry map key value isMatch reason = .ok ())
    {existing : ν} (hlookup : map.lookup key = some existing) : isMatch existing value = true := by
  unfold validateEntry at h
  rw [hlookup] at h
  simp only at h
  split at h
  · assumption
  · cases h

/-- What a seed that passes validation shares with the records that are already there. -/
structure SeedFits (s : TenancyStore) (request : BootstrapDefaultProjectRequest) : Prop where
  organization : ∀ existing, s.organizations.lookup request.organizationId = some existing →
    existing.tenantId = request.tenantId
  project : ∀ existing, s.projects.lookup request.projectId = some existing →
    existing.tenantId = request.tenantId ∧ existing.organizationId = request.organizationId
  user : ∀ existing, s.users.lookup request.userId = some existing →
    existing.defaultOrganizationId = some request.organizationId ∧ existing.defaultProjectId = some request.projectId

theorem validateTenancySeed_fits {request : BootstrapDefaultProjectRequest}
    (h : validateTenancySeed s (tenancySeedFromRequest request) = .ok ()) : SeedFits s request := by
  obtain ⟨_, -, h⟩ := bind_ok.mp h
  obtain ⟨_, horganization, h⟩ := bind_ok.mp h
  obtain ⟨_, hproject, h⟩ := bind_ok.mp h
  obtain ⟨_, huser, h⟩ := bind_ok.mp h
  constructor
  · intro existing hlookup
    have hmatch := validateEntry_ok horganization hlookup
    simp only [organizationSeedMatches, Bool.and_eq_true, beq_iff_eq] at hmatch
    exact hmatch.1.2
  · intro existing hlookup
    have hmatch := validateEntry_ok hproject hlookup
    simp only [projectSeedMatches, Bool.and_eq_true, beq_iff_eq] at hmatch
    exact ⟨hmatch.1.1.2, hmatch.1.2⟩
  · intro existing hlookup
    have hmatch := validateEntry_ok huser hlookup
    simp only [userSeedMatches, Bool.and_eq_true, beq_iff_eq] at hmatch
    exact ⟨hmatch.1.1.1.2, hmatch.1.1.2⟩

section Seeded

variable {request : BootstrapDefaultProjectRequest}

theorem insertTenancySeed_organization (hfits : SeedFits s request) :
    ∃ organization, (insertTenancySeed s (tenancySeedFromRequest request)).organizations.lookup
      request.organizationId = some organization ∧ organization.tenantId = request.tenantId := by
  cases hlookup : s.organizations.lookup request.organizationId with
  | none => exact ⟨_, lookup_orInsert_of_none _ hlookup, rfl⟩
  | some existing => exact ⟨existing, lookup_orInsert_of_some hlookup, hfits.organization existing hlookup⟩

theorem insertTenancySeed_project (hfits : SeedFits s request) :
    ∃ project, (insertTenancySeed s (tenancySeedFromRequest request)).projects.lookup request.projectId =
      some project ∧ project.organizationId = request.organizationId ∧ project.tenantId = request.tenantId := by
  cases hlookup : s.projects.lookup request.projectId with
  | none => exact ⟨_, lookup_orInsert_of_none _ hlookup, rfl, rfl⟩
  | some existing =>
    obtain ⟨htenant, horganization⟩ := hfits.project existing hlookup
    exact ⟨existing, lookup_orInsert_of_some hlookup, horganization, htenant⟩

theorem insertTenancySeed_consistent (h : Consistent s) (hfits : SeedFits s request) :
    Consistent (insertTenancySeed s (tenancySeedFromRequest request)) := by
  -- Each table gains at most the record of the seed, and what that record names is stored with it.
  have horganization := insertTenancySeed_organization hfits
  have hproject := insertTenancySeed_project hfits
  have huser : ∃ user, (insertTenancySeed s (tenancySeedFromRequest request)).users.lookup request.userId =
      some user := ⟨_, lookup_orInsert_self _ _ _⟩
  constructor
  · intro id organization hlookup
    rcases orInsert_some hlookup with hold | ⟨rfl, rfl, -⟩
    · exact h.organization_named id organization hold
    · rfl
  · intro id project hlookup
    rcases orInsert_some hlookup with hold | ⟨rfl, rfl, -⟩
    · exact h.project_named id project hold
    · rfl
  · intro id user hlookup
    rcases orInsert_some hlookup with hold | ⟨rfl, rfl, -⟩
    · exact h.user_named id user hold
    · rfl
  · intro key member hlookup
    rcases orInsert_some hlookup with hold | ⟨rfl, rfl, -⟩
    · exact h.member_key key member hold
    · rfl
  · intro key member hlookup
    rcases orInsert_some hlookup with hold | ⟨-, rfl, -⟩
    · obtain ⟨user, hknown⟩ := h.member_user key member hold
      exact ⟨user, lookup_orInsert_of_some hknown⟩
    · exact huser
  · intro key member hlookup
    rcases orInsert_some hlookup with hold | ⟨-, rfl, -⟩
    · obtain ⟨organization, hknown, htenant⟩ := h.member_tenant key member hold
      exact ⟨organization, lookup_orInsert_of_some hknown, htenant⟩
    · exact horganization
  · intro id project hlookup
    rcases orInsert_some hlookup with hold | ⟨-, rfl, -⟩
    · obtain ⟨organization, hknown, htenant⟩ := h.project_tenant id project hold
      exact ⟨organization, lookup_orInsert_of_some hknown, htenant⟩
    · exact horganization
  · intro key member hlookup
    rcases orInsert_some hlookup with hold | ⟨rfl, rfl, -⟩
    · exact h.assigned_key key member hold
    · rfl
  · intro key member hlookup
    rcases orInsert_some hlookup with hold | ⟨-, rfl, -⟩
    · obtain ⟨user, hknown⟩ := h.assigned_user key member hold
      exact ⟨user, lookup_orInsert_of_some hknown⟩
    · exact huser
  · intro key member hlookup
    rcases orInsert_some hlookup with hold | ⟨-, rfl, -⟩
    · obtain ⟨project, hknown, hscope⟩ := h.assigned_project key member hold
      exact ⟨project, lookup_orInsert_of_some hknown, hscope⟩
    · exact hproject
  · intro id user hlookup organizationId hdefault
    rcases orInsert_some hlookup with hold | ⟨rfl, rfl, -⟩
    · obtain ⟨member, hmember⟩ := h.default_organization id user hold organizationId hdefault
      exact ⟨member, lookup_orInsert_of_some hmember⟩
    · cases hdefault
      exact ⟨_, lookup_orInsert_self _ _ _⟩
  · intro id user hlookup projectId hdefault
    rcases orInsert_some hlookup with hold | ⟨rfl, rfl, -⟩
    · obtain ⟨member, hmember⟩ := h.default_project id user hold projectId hdefault
      exact ⟨member, lookup_orInsert_of_some hmember⟩
    · cases hdefault
      exact ⟨_, lookup_orInsert_self _ _ _⟩
  · intro id invitation hlookup
    obtain ⟨organization, hknown, htenant⟩ := h.invited_organization id invitation hlookup
    exact ⟨organization, lookup_orInsert_of_some hknown, htenant⟩
  · intro id invitation hlookup projectId hrequested
    obtain ⟨project, hknown, hscope⟩ := h.invited_project id invitation hlookup projectId hrequested
    exact ⟨project, lookup_orInsert_of_some hknown, hscope⟩

theorem insertTenancySeed_backed (h : MembershipsSound s) (hfits : SeedFits s request) :
    Backed (insertTenancySeed s (tenancySeedFromRequest request)) := by
  intro key member hlookup hactive
  rcases orInsert_some hlookup with hold | ⟨-, rfl, habsent⟩
  · obtain ⟨backing, hbacking, hstatus⟩ := h.backed key member hold hactive
    exact ⟨backing, lookup_orInsert_of_some hbacking, hstatus⟩
  · cases hmember : s.organizationMemberships.lookup (request.userId, request.organizationId) with
    | none => exact ⟨_, lookup_orInsert_of_none _ hmember, rfl⟩
    | some existing =>
      -- a known user has the seed's project as default, so the project membership was there
      obtain ⟨user, huser⟩ := h.consistent.member_user _ _ hmember
      have hkey := h.consistent.member_key _ _ hmember
      rw [Prod.mk.injEq] at hkey
      rw [← hkey.1] at huser
      obtain ⟨assigned, hassigned⟩ :=
        h.consistent.default_project _ _ huser _ (hfits.user user huser).2
      rw [show s.projectMemberships.lookup (request.userId, request.projectId) = none from habsent] at hassigned
      cases hassigned

theorem bootstrapDefaultProject_sound (h : MembershipsSound s) :
    MembershipsSound (bootstrapDefaultProject s request).2 := by
  unfold bootstrapDefaultProject
  simp only
  split
  · exact h
  · rename_i hvalid
    have hfits := validateTenancySeed_fits hvalid
    exact ⟨insertTenancySeed_consistent h.consistent hfits, insertTenancySeed_backed h hfits⟩

end Seeded

end Seeds

section Runs

variable {env : AuthEnv} {s next : TenancyStore}

/-- An update that passes its checks sets a project membership to active only while its principal is an active member
of the organization. -/
def ActivationBacked (s : TenancyStore) : MembershipAction → Prop
  | .updateProjectMember call projectId projectMemberId expectedVersion status =>
    status = .active → call.authorized = .ok () → ∀ member,
      projectMemberForActor s call.actor projectId projectMemberId = .ok member →
        member.resourceVersion = expectedVersion → ActiveMember s member.principalId member.organizationId
  | _ => True

theorem membershipStep_sound {action : MembershipAction} (h : MembershipsSound s) (hbacked : ActivationBacked s action)
    (hstep : membershipStep env s action = some next) : MembershipsSound next := by
  cases action with
  | bootstrapDefaultProject request =>
    rw [← Option.some.inj hstep]
    exact bootstrapDefaultProject_sound h
  | insertAuthSession session =>
    rw [← Option.some.inj hstep]
    exact h.of_same ⟨rfl, rfl, rfl, rfl, rfl, rfl⟩
  | createOrganizationInvitation call organizationId request requestHash invitationId rawToken =>
    rw [← Option.some.inj hstep]
    exact createOrganizationInvitation_sound h
  | createProjectMember call projectId request requestHash projectMemberId =>
    rw [← Option.some.inj hstep]
    exact createProjectMember_sound h
  | updateProjectMember call projectId projectMemberId expectedVersion status =>
    rw [← Option.some.inj hstep]
    exact updateProjectMember_sound h hbacked
  | updateOrganizationMember call organizationId organizationMemberId expectedVersion status =>
    rw [← Option.some.inj hstep]
    exact updateOrganizationMember_sound h
  | acceptAuthInvitation headers token now organizationMemberId projectMemberId =>
    rw [← Option.some.inj hstep]
    exact acceptAuthInvitation_sound h

theorem membershipRun_sound {actions : List MembershipAction}
    (hmeets : Meets (membershipStep env) ActivationBacked .empty actions)
    (hrun : run (membershipStep env) .empty actions = some s) : MembershipsSound s :=
  run_invariant (fun _ _ _ h hbacked hstep => membershipStep_sound h hbacked hstep) ⟨consistent_empty, backed_empty⟩
    hmeets hrun

/-- In every state of such a run an active project membership has an active membership of the organization behind it. -/
theorem activeProjectMember_backed (env : AuthEnv) (actions : List MembershipAction)
    (hmeets : Meets (membershipStep env) ActivationBacked .empty actions)
    (hrun : run (membershipStep env) .empty actions = some s) (key : String × String)
    {member : ProjectMembershipRecord} (hmember : s.projectMemberships.lookup key = some member)
    (hstatus : member.status.acceptsAccess = true) :
    ∃ project organizationMember, s.projects.lookup member.projectId = some project ∧
      s.organizationMemberships.lookup (member.principalId, project.organizationId) = some organizationMember ∧
      organizationMember.status = .active := by
  have hsound := membershipRun_sound hmeets hrun
  obtain ⟨project, hproject, horganization, -⟩ := hsound.consistent.assigned_project key member hmember
  obtain ⟨backing, hbacking, hactive⟩ := hsound.backed key member hmember (MembershipStatus.acceptsAccess_iff.mp hstatus)
  exact ⟨project, backing, hproject, by rw [horganization, hbacking], hactive⟩

end Runs

def ownerCall : AdminCall :=
  ⟨⟨"usr_1", .user, "ten_1", some "org_1", some "prj_1", some "usr_1", none, "req_1", "tr_1"⟩, .ok (), ⟨0⟩⟩

def reactivatedAlone : List MembershipAction :=
  [.bootstrapDefaultProject sampleBootstrap, .updateOrganizationMember ownerCall "org_1" "om_1" 1 .suspended,
    .updateProjectMember ownerCall "prj_1" "pm_1" 2 .active]

theorem reactivatedAlone_unbacked :
    ∃ s member, run (membershipStep sampleAuthEnv) .empty reactivatedAlone = some s ∧
      s.projectMemberships.lookup ("usr_1", "prj_1") = some member ∧ member.status.acceptsAccess = true ∧
      ¬ ∃ project backing, s.projects.lookup member.projectId = some project ∧
        s.organizationMemberships.lookup (member.principalId, project.organizationId) = some backing ∧
        backing.status = .active := by
  refine ⟨_, _, rfl, rfl, rfl, ?_⟩
  rintro ⟨project, backing, hproject, hbacking, hactive⟩
  cases hproject
  cases hbacking
  cases hactive

def reactivatedInOrder : List MembershipAction :=
  [.bootstrapDefaultProject sampleBootstrap, .updateOrganizationMember ownerCall "org_1" "om_1" 1 .suspended,
    .updateOrganizationMember ownerCall "org_1" "om_1" 2 .active,
    .updateProjectMember ownerCall "prj_1" "pm_1" 2 .active]

theorem reactivatedInOrder_backed :
    ∃ s member, run (membershipStep sampleAuthEnv) .empty reactivatedInOrder = some s ∧
      s.projectMemberships.lookup ("usr_1", "prj_1") = some member ∧ member.status.acceptsAccess = true ∧
      ∃ project organizationMember, s.projects.lookup member.projectId = some project ∧
        s.organizationMemberships.lookup (member.principalId, project.organizationId) = some organizationMember ∧
        organizationMember.status = .active := by
  refine ⟨_, _, rfl, rfl, rfl, ?_⟩
  refine activeProjectMember_backed sampleAuthEnv reactivatedInOrder ?_ rfl ("usr_1", "prj_1") rfl rfl
  refine .cons rfl trivial (.cons rfl trivial (.cons rfl trivial (.cons rfl ?_ trivial)))
  intro _ _ member hmember _
  cases hmember
  exact ⟨_, rfl, rfl⟩

end Starweaver.Gateway.Tenancy
