import Starweaver.Gateway.SessionContexts

namespace Starweaver.Gateway.Tenancy

open Library.AssocMap Library.Calendar Library.Checks Library.Machine Library.Text

/-- The project, if there is one, belongs to the organization. -/
def ContextFits (s : TenancyStore) (organizationId projectId : Option String) : Prop :=
  ∀ id, projectId = some id → ∃ project, s.projects.lookup id = some project ∧
    organizationId = some project.organizationId

/-- What the tables that a context is chosen from agree on. -/
structure ContextBase (s : TenancyStore) : Prop where
  organization_named : ∀ id organization, s.organizations.lookup id = some organization →
    organization.organizationId = id
  project_named : ∀ id project, s.projects.lookup id = some project → project.projectId = id
  assigned : ∀ key membership, s.projectMemberships.lookup key = some membership → membership.projectId = key.2
  invitation_named : ∀ id invitation, s.organizationInvitations.lookup id = some invitation →
    invitation.invitationId = id
  invited : ∀ id invitation, s.organizationInvitations.lookup id = some invitation →
    ContextFits s (some invitation.organizationId) invitation.projectId

/-- The defaults of every user and the context of every session fit. -/
structure ContextsFit (s : TenancyStore) : Prop where
  users : ∀ id user, s.users.lookup id = some user → ContextFits s user.defaultOrganizationId user.defaultProjectId
  sessions : ∀ sessionHash session, s.authSessions.lookup sessionHash = some session →
    ContextFits s session.activeOrganizationId session.activeProjectId

/-- No project is lost or moves to another organization. -/
def ProjectsKept (s t : TenancyStore) : Prop :=
  ∀ id project, s.projects.lookup id = some project →
    ∃ kept, t.projects.lookup id = some kept ∧ kept.organizationId = project.organizationId

section Writes

variable {env : AuthEnv} {s t : TenancyStore}

theorem ContextFits.none (s : TenancyStore) (organizationId : Option String) : ContextFits s organizationId none :=
  fun _ h => nomatch h

theorem ProjectsKept.of_eq (h : t.projects = s.projects) : ProjectsKept s t :=
  fun _ project hproject => ⟨project, h ▸ hproject, rfl⟩

theorem ContextFits.kept (h : ProjectsKept s t) {organizationId projectId : Option String}
    (hfits : ContextFits s organizationId projectId) : ContextFits t organizationId projectId := by
  intro id hid
  obtain ⟨project, hproject, horganization⟩ := hfits id hid
  obtain ⟨kept, hkept, hsame⟩ := h id project hproject
  exact ⟨kept, hkept, by rw [horganization, hsame]⟩

/-- The tables of the directory stay as they are. -/
structure SameTables (s t : TenancyStore) : Prop where
  organizations : t.organizations = s.organizations
  projects : t.projects = s.projects
  projectMemberships : t.projectMemberships = s.projectMemberships
  organizationInvitations : t.organizationInvitations = s.organizationInvitations

theorem ContextBase.of_same (h : ContextBase s) (hsame : SameTables s t) : ContextBase t where
  organization_named := by
    rw [hsame.organizations]
    exact h.organization_named
  project_named := by
    rw [hsame.projects]
    exact h.project_named
  assigned := by
    rw [hsame.projectMemberships]
    exact h.assigned
  invitation_named := by
    rw [hsame.organizationInvitations]
    exact h.invitation_named
  invited := by
    rw [hsame.organizationInvitations]
    exact fun id invitation hinvitation => (h.invited id invitation hinvitation).kept (.of_eq hsame.projects)

theorem ContextsFit.of_same (h : ContextsFit s) (hprojects : t.projects = s.projects) (husers : t.users = s.users)
    (hsessions : t.authSessions = s.authSessions) : ContextsFit t where
  users := by
    rw [husers]
    exact fun id user huser => (h.users id user huser).kept (.of_eq hprojects)
  sessions := by
    rw [hsessions]
    exact fun sessionHash session hsession => (h.sessions sessionHash session hsession).kept (.of_eq hprojects)

theorem ContextsFit.put_session (h : ContextsFit s) {sessionHash : String} {session : AuthSessionRecord}
    (hfits : ContextFits s session.activeOrganizationId session.activeProjectId) :
    ContextsFit { s with authSessions := s.authSessions.insert sessionHash session } where
  users := h.users
  sessions otherHash other hother := by
    rcases insert_some hother with ⟨-, rfl⟩ | ⟨-, hold⟩
    · exact hfits
    · exact h.sessions otherHash other hold

theorem ContextsFit.put_user (h : ContextsFit s) {userId : String} {user : UserRecord}
    (hfits : ContextFits s user.defaultOrganizationId user.defaultProjectId) :
    ContextsFit { s with users := s.users.insert userId user } where
  users otherId other hother := by
    rcases insert_some hother with ⟨-, rfl⟩ | ⟨-, hold⟩
    · exact hfits
    · exact h.users otherId other hold
  sessions := h.sessions

/-- Any update of the sessions that leaves their contexts. -/
theorem ContextsFit.map_sessions (h : ContextsFit s) {update : AuthSessionRecord → AuthSessionRecord}
    (hkept : ∀ session, (update session).activeOrganizationId = session.activeOrganizationId ∧
      (update session).activeProjectId = session.activeProjectId) :
    ContextsFit { s with authSessions := mapValues update s.authSessions } where
  users := h.users
  sessions sessionHash session hsession := by
    rw [lookup_mapValues, Option.map_eq_some_iff] at hsession
    obtain ⟨before, hbefore, rfl⟩ := hsession
    obtain ⟨horganization, hproject⟩ := hkept before
    rw [horganization, hproject]
    exact h.sessions sessionHash before hbefore

theorem updateSessionActiveContextByHash_same (s : TenancyStore) (sessionHash : String)
    (organizationId projectId : Option String) (now : DateTime) :
    SameTables s (updateSessionActiveContextByHash s sessionHash organizationId projectId now).2 := by
  unfold updateSessionActiveContextByHash
  split
  · exact ⟨rfl, rfl, rfl, rfl⟩
  · split
    · exact ⟨rfl, rfl, rfl, rfl⟩
    · exact ⟨rfl, rfl, rfl, rfl⟩

theorem updateSessionActiveContextByHash_fits (h : ContextsFit s) {organizationId projectId : Option String}
    (hfits : ContextFits s organizationId projectId) (sessionHash : String) (now : DateTime) :
    ContextsFit (updateSessionActiveContextByHash s sessionHash organizationId projectId now).2 := by
  unfold updateSessionActiveContextByHash
  split
  · exact h
  · split
    · exact h
    · exact h.put_session hfits

theorem revokeSessionByHash_same (s : TenancyStore) (sessionHash : String) :
    SameTables s (revokeSessionByHash s sessionHash).2 := by
  unfold revokeSessionByHash
  split
  · exact ⟨rfl, rfl, rfl, rfl⟩
  · exact ⟨rfl, rfl, rfl, rfl⟩

theorem revokeSessionByHash_fits (h : ContextsFit s) (sessionHash : String) :
    ContextsFit (revokeSessionByHash s sessionHash).2 := by
  unfold revokeSessionByHash
  split
  · exact h
  · rename_i session hsession
    exact h.put_session (h.sessions sessionHash session hsession)

end Writes

section Choices

variable {env : AuthEnv} {s : TenancyStore} {session : AuthSessionRecord}

theorem activeOrganizationForSession_ok {organizationId : String} {organization : OrganizationRecord}
    (h : activeOrganizationForSession s session organizationId = .ok organization) :
    s.organizations.lookup organizationId = some organization := by
  unfold activeOrganizationForSession at h
  split at h
  · cases h
  · rename_i found hfound
    split at h
    · cases h
    · split at h
      · cases h
      · cases h
        exact (Option.filter_eq_some_iff.mp hfound).1

theorem activeProjectForSession_ok {projectId : String} {required : Option String} {project : ProjectRecord}
    (h : activeProjectForSession s session projectId required = .ok project) :
    s.projects.lookup projectId = some project ∧ ∀ organizationId, required = some organizationId →
      project.organizationId = organizationId := by
  unfold activeProjectForSession at h
  split at h
  · cases h
  rename_i found hfound
  split at h
  · cases h
  rename_i hrequired
  split at h
  · cases h
  obtain ⟨_, -, h⟩ := bind_ok.mp h
  split at h
  · cases h
  split at h
  · cases h
  cases h
  refine ⟨(Option.filter_eq_some_iff.mp hfound).1, fun organizationId hsome => ?_⟩
  rw [hsome, Option.any_some, bne_iff_ne, not_not] at hrequired
  exact hrequired.symm

/-- The project that is selected belongs to the organization. -/
theorem selectSessionProjectForOrganization_fits (hbase : ContextBase s) {organizationId : String}
    {requested : Option String} {selected : Option ProjectMembershipRecord}
    (h : selectSessionProjectForOrganization s session organizationId requested = .ok selected) :
    ContextFits s (some organizationId) (selected.map (·.projectId)) := by
  have hmember : ∀ projectId project, activeProjectForSession s session projectId (some organizationId) = .ok project →
      ContextFits s (some organizationId)
        ((s.projectMemberships.lookup (session.principalId, projectId)).map (·.projectId)) := by
    intro projectId project hactive id hid
    obtain ⟨membership, hmembership, rfl⟩ := Option.map_eq_some_iff.mp hid
    obtain ⟨hproject, horganization⟩ := activeProjectForSession_ok hactive
    refine ⟨project, ?_, by rw [horganization organizationId rfl]⟩
    rw [hbase.assigned _ membership hmembership]
    exact hproject
  unfold selectSessionProjectForOrganization at h
  cases requested with
  | some requestedId =>
    obtain ⟨projectId, -, h⟩ := bind_ok.mp h
    obtain ⟨project, hactive, h⟩ := bind_ok.mp h
    cases h
    rw [hbase.project_named projectId project (activeProjectForSession_ok hactive).1]
    exact hmember projectId project hactive
  | none =>
    cases h
    cases hfound : (candidateProjectIds s session organizationId).find? fun projectId =>
        (activeProjectForSession s session projectId (some organizationId)).isOk with
    | none => exact .none s _
    | some projectId =>
      have hok := List.find?_some hfound
      cases hactive : activeProjectForSession s session projectId (some organizationId) with
      | error error =>
        rw [hactive] at hok
        cases hok
      | ok project => exact hmember projectId project hactive

theorem selectedContext_fits (hbase : ContextBase s) {headers : HeaderMap} {now : DateTime}
    {requestedOrganizationId organizationId : String} {requestedProjectId projectId : Option String}
    (h : selectedContext env s headers now requestedOrganizationId requestedProjectId =
      .ok (session, organizationId, projectId)) : ContextFits s (some organizationId) projectId := by
  unfold selectedContext at h
  obtain ⟨found, -, h⟩ := bind_ok.mp h
  obtain ⟨normalized, -, h⟩ := bind_ok.mp h
  obtain ⟨organization, horganization, h⟩ := bind_ok.mp h
  obtain ⟨selected, hselected, h⟩ := bind_ok.mp h
  cases h
  rw [hbase.organization_named _ organization (activeOrganizationForSession_ok horganization)]
  exact selectSessionProjectForOrganization_fits hbase hselected

end Choices

section Acceptance

variable {env : AuthEnv} {s t : TenancyStore} {principalId : String}

/-- The user has a default project, or no default organization but the one of the invited project. -/
def RepairAgrees (s : TenancyStore) (organizationId : String) (projectId : Option String) (principalId : String) :
    Prop :=
  ∀ user, s.users.lookup principalId = some user → user.defaultProjectId = none → projectId.isSome = true →
    ∀ defaultOrganizationId, user.defaultOrganizationId = some defaultOrganizationId →
      defaultOrganizationId = organizationId

theorem repairUserDefaults_fits_iff (principalId : String) (h : ContextsFit s)
    {invitation : OrganizationInvitationRecord}
    (hinvited : ContextFits s (some invitation.organizationId) invitation.projectId) :
    (∀ id user, (repairUserDefaultsAfterInviteAccept s invitation principalId).users.lookup id = some user →
      ContextFits s user.defaultOrganizationId user.defaultProjectId) ↔
    RepairAgrees s invitation.organizationId invitation.projectId principalId := by
  unfold repairUserDefaultsAfterInviteAccept
  cases huser : s.users.lookup principalId with
  | none =>
    constructor
    · intro _ user hfound
      cases huser.symm.trans hfound
    · exact fun _ => h.users
  | some user =>
    have hfits := h.users principalId user huser
    dsimp only
    constructor
    · intro hall found hfound hnone hsome defaultOrganizationId hdefault
      cases huser.symm.trans hfound
      obtain ⟨projectId, hproject⟩ := Option.isSome_iff_exists.mp hsome
      obtain ⟨project, hlookup, horganization⟩ := hinvited projectId hproject
      obtain ⟨project', hlookup', horganization'⟩ :=
        hall principalId _ (AList.lookup_insert _) projectId (by simp [hnone, hproject])
      cases hlookup.symm.trans hlookup'
      have hsame : some invitation.organizationId = some defaultOrganizationId := by
        rw [horganization, ← horganization', hdefault]
        rfl
      exact (Option.some.inj hsame).symm
    · intro hagrees id other hother
      rcases insert_some hother with ⟨-, rfl⟩ | ⟨-, hold⟩
      · intro projectId hproject
        rcases Option.or_eq_some_iff.mp hproject with hold | ⟨hnone, hnew⟩
        · obtain ⟨project, hlookup, horganization⟩ := hfits projectId hold
          exact ⟨project, hlookup, by dsimp only; rw [horganization]; rfl⟩
        · obtain ⟨project, hlookup, horganization⟩ := hinvited projectId hnew
          refine ⟨project, hlookup, ?_⟩
          cases hdefault : user.defaultOrganizationId with
          | none => exact horganization
          | some defaultOrganizationId =>
            rw [hagrees user huser hnone (Option.isSome_of_eq_some hnew) _ hdefault]
            exact horganization
      · exact h.users id other hold

theorem upsertInvitedProjectMembership_assigned (hbase : ContextBase s) (invitation : OrganizationInvitationRecord)
    (projectId organizationMemberId projectMemberId : String) :
    ContextBase (upsertInvitedProjectMembership s invitation principalId projectId organizationMemberId
      projectMemberId) := by
  refine { hbase with assigned := fun key membership hmembership => ?_ }
  unfold upsertInvitedProjectMembership at hmembership
  rcases insert_some hmembership with ⟨rfl, rfl⟩ | ⟨-, hold⟩
  · have hkept : ((s.projectMemberships.lookup (principalId, projectId)).getD ⟨projectMemberId, invitation.tenantId,
        invitation.organizationId, projectId, principalId, some organizationMemberId, .active, 1⟩).projectId =
          projectId := by
      cases hfound : s.projectMemberships.lookup (principalId, projectId) with
      | none => rfl
      | some found => exact hbase.assigned _ found hfound
    dsimp only
    split
    · split
      · exact hkept
      · exact hkept
    · split
      · exact hkept
      · exact hkept
  · exact hbase.assigned key membership hold

/-- What an invitation that is accepted leaves behind, besides the memberships. -/
structure Accepted (s : TenancyStore) (invitation : OrganizationInvitationRecord) (principalId : String)
    (accepted : OrganizationInvitationRecord) (t : TenancyStore) : Prop where
  base : ContextBase t
  organization : accepted.organizationId = invitation.organizationId
  project : accepted.projectId = invitation.projectId
  projects : t.projects = s.projects
  sessions : t.authSessions = s.authSessions
  users : t.users = (repairUserDefaultsAfterInviteAccept s invitation principalId).users

theorem repairUserDefaults_tables (s : TenancyStore) (invitation : OrganizationInvitationRecord) (principalId : String) :
    SameTables s (repairUserDefaultsAfterInviteAccept s invitation principalId) ∧
      (repairUserDefaultsAfterInviteAccept s invitation principalId).authSessions = s.authSessions := by
  unfold repairUserDefaultsAfterInviteAccept
  split
  · exact ⟨⟨rfl, rfl, rfl, rfl⟩, rfl⟩
  · exact ⟨⟨rfl, rfl, rfl, rfl⟩, rfl⟩

theorem repairUserDefaults_users {invitation other : OrganizationInvitationRecord} (husers : t.users = s.users)
    (horganization : other.organizationId = invitation.organizationId)
    (hproject : other.projectId = invitation.projectId) :
    (repairUserDefaultsAfterInviteAccept t other principalId).users =
      (repairUserDefaultsAfterInviteAccept s invitation principalId).users := by
  unfold repairUserDefaultsAfterInviteAccept
  rw [husers, horganization, hproject]
  split
  · exact husers
  · rfl

theorem acceptOrganizationInvitation_ok (hbase : ContextBase s) {invitation accepted : OrganizationInvitationRecord}
    {organizationMemberId projectMemberId : String} {now : DateTime}
    (hinvitation : s.organizationInvitations.lookup invitation.invitationId = some invitation)
    (hok : acceptOrganizationInvitation s invitation.invitationId principalId now organizationMemberId projectMemberId =
      .ok (accepted, t)) :
    invitation.status.acceptsAt invitation.expiresAt now = true ∧ Accepted s invitation principalId accepted t := by
  unfold acceptOrganizationInvitation at hok
  rw [hinvitation] at hok
  dsimp only at hok
  split at hok
  · cases hok
  rename_i haccepts
  refine ⟨by simpa using haccepts, ?_⟩
  cases hok
  have hmarked : ContextBase { s with
      organizationInvitations := s.organizationInvitations.insert invitation.invitationId
        { invitation with status := .accepted, resourceVersion := invitation.resourceVersion + 1 } } := by
    refine { hbase with invitation_named := fun id other hother => ?_, invited := fun id other hother => ?_ }
    · rcases insert_some hother with ⟨rfl, rfl⟩ | ⟨-, hold⟩
      · rfl
      · exact hbase.invitation_named id other hold
    · rcases insert_some hother with ⟨-, rfl⟩ | ⟨-, hold⟩
      · exact hbase.invited _ invitation hinvitation
      · exact hbase.invited id other hold
  have hjoined : ContextBase (upsertInvitedOrganizationMembership { s with
      organizationInvitations := s.organizationInvitations.insert invitation.invitationId
        { invitation with status := .accepted, resourceVersion := invitation.resourceVersion + 1 } }
      { invitation with status := .accepted, resourceVersion := invitation.resourceVersion + 1 } principalId
      organizationMemberId).2 := hmarked.of_same ⟨rfl, rfl, rfl, rfl⟩
  cases hproject : invitation.projectId with
  | none =>
    obtain ⟨htables, hsessions⟩ := repairUserDefaults_tables _
      { invitation with status := .accepted, resourceVersion := invitation.resourceVersion + 1, projectId := none }
      principalId
    rw [hproject] at hjoined
    exact ⟨hjoined.of_same htables, rfl, hproject.symm, htables.projects, hsessions,
      repairUserDefaults_users rfl rfl hproject.symm⟩
  | some projectId =>
    rw [hproject] at hjoined
    obtain ⟨htables, hsessions⟩ := repairUserDefaults_tables _
      { invitation with
        status := .accepted, resourceVersion := invitation.resourceVersion + 1, projectId := some projectId }
      principalId
    exact ⟨(upsertInvitedProjectMembership_assigned hjoined _ projectId _ _).of_same htables, rfl, hproject.symm,
      htables.projects, hsessions, repairUserDefaults_users rfl rfl hproject.symm⟩

end Acceptance

section Steps

variable {env : AuthEnv} {s t : TenancyStore}

structure KeepsContexts (s t : TenancyStore) : Prop where
  base : ContextBase s → ContextBase t
  fits : ContextBase s → ContextsFit s → ContextsFit t

theorem KeepsContexts.refl (s : TenancyStore) : KeepsContexts s s := ⟨id, fun _ => id⟩

theorem KeepsContexts.of_same (hsame : SameTables s t) (husers : t.users = s.users)
    (hsessions : t.authSessions = s.authSessions) : KeepsContexts s t :=
  ⟨fun hbase => hbase.of_same hsame, fun _ hfits => hfits.of_same hsame.projects husers hsessions⟩

theorem bootstrapDefaultProject_contexts (request : BootstrapDefaultProjectRequest) :
    KeepsContexts s (bootstrapDefaultProject s request).2 := by
  unfold bootstrapDefaultProject
  dsimp only
  split
  · exact .refl s
  rename_i hvalid
  have hseed := validateTenancySeed_fits hvalid
  have hkept : ProjectsKept s (insertTenancySeed s (tenancySeedFromRequest request)) :=
    fun id project hproject => ⟨project, lookup_orInsert_of_some hproject, rfl⟩
  constructor
  · intro hbase
    refine ⟨fun id organization h => ?_, fun id project h => ?_, fun key membership h => ?_, hbase.invitation_named,
      fun id invitation h => (hbase.invited id invitation h).kept hkept⟩
    · rcases orInsert_some h with hold | ⟨rfl, rfl, -⟩
      · exact hbase.organization_named id organization hold
      · rfl
    · rcases orInsert_some h with hold | ⟨rfl, rfl, -⟩
      · exact hbase.project_named id project hold
      · rfl
    · rcases orInsert_some h with hold | ⟨rfl, rfl, -⟩
      · exact hbase.assigned key membership hold
      · rfl
  · intro _ hfits
    refine ⟨fun id user h => ?_, fun sessionHash session h => (hfits.sessions sessionHash session h).kept hkept⟩
    rcases orInsert_some h with hold | ⟨rfl, rfl, -⟩
    · exact (hfits.users id user hold).kept hkept
    · intro projectId hproject
      obtain ⟨project, hlookup, horganization, -⟩ := insertTenancySeed_project hseed
      cases hproject
      exact ⟨project, hlookup, by rw [horganization]; rfl⟩

theorem createOrganizationInvitation_contexts (call : AdminCall) (organizationId : String)
    (request : AdminCreateOrganizationInvitationRequest) (requestHash invitationId rawToken : String) :
    KeepsContexts s
      (createOrganizationInvitation env s call organizationId request requestHash invitationId rawToken).2 := by
  unfold createOrganizationInvitation
  split
  · exact .refl s
  dsimp only
  have hlooked : SameTables s (s.idempotencyResponse call.actor.tenantId
      s!"organization_invitations:create:{organizationId}:{request.idempotencyKey}" requestHash call.now).2 ∧
      (s.idempotencyResponse call.actor.tenantId
        s!"organization_invitations:create:{organizationId}:{request.idempotencyKey}" requestHash call.now).2.users =
        s.users ∧
      (s.idempotencyResponse call.actor.tenantId
        s!"organization_invitations:create:{organizationId}:{request.idempotencyKey}" requestHash
        call.now).2.authSessions = s.authSessions := by
    unfold TenancyStore.idempotencyResponse
    split
    · exact ⟨⟨rfl, rfl, rfl, rfl⟩, rfl, rfl⟩
    · split
      · exact ⟨⟨rfl, rfl, rfl, rfl⟩, rfl, rfl⟩
      · split
        · exact ⟨⟨rfl, rfl, rfl, rfl⟩, rfl, rfl⟩
        · exact ⟨⟨rfl, rfl, rfl, rfl⟩, rfl, rfl⟩
  generalize s.idempotencyResponse _ _ _ _ = looked at hlooked ⊢
  obtain ⟨response, store⟩ := looked
  obtain ⟨hsame, husers, hsessions⟩ := hlooked
  have hkept := KeepsContexts.of_same hsame husers hsessions
  match response with
  | .error error => exact hkept
  | .ok true => exact hkept
  | .ok false =>
    dsimp only
    split
    · exact hkept
    rename_i organization _ hvalid
    rw [ne_eq, not_not] at hvalid
    have hinvited : ContextFits store (some organization.organizationId) request.projectId := by
      intro projectId hrequested
      unfold organizationInvitationValidationErrors at hvalid
      obtain ⟨-, hvalid⟩ := List.append_eq_nil_iff.mp hvalid
      split at hvalid
      · rename_i hproject
        rw [hrequested, Option.all_some, Option.any_eq_true] at hproject
        obtain ⟨project, hlookup, hscope⟩ := hproject
        simp only [Bool.and_eq_true, beq_iff_eq] at hscope
        exact ⟨project, hlookup, by rw [hscope.1.2]⟩
      · cases hvalid
    constructor
    · intro hbase
      have hstored := hkept.base hbase
      refine ⟨hstored.organization_named, hstored.project_named, hstored.assigned, fun id invitation h => ?_,
        fun id invitation h => ?_⟩
      · rcases insert_some h with ⟨rfl, rfl⟩ | ⟨-, hold⟩
        · rfl
        · exact hstored.invitation_named id invitation hold
      · rcases insert_some h with ⟨-, rfl⟩ | ⟨-, hold⟩
        · exact hinvited
        · exact hstored.invited id invitation hold
    · intro hbase hfits
      exact (hkept.fits hbase hfits).of_same rfl rfl rfl

theorem updateUserDefaultContext_contexts {userId : String} {organizationId projectId : Option String}
    (hfitting : ContextFits s organizationId projectId)
    (hok : updateUserDefaultContext s userId organizationId projectId = .ok t) :
    SameTables s t ∧ (ContextsFit s → ContextsFit t) := by
  unfold updateUserDefaultContext at hok
  split at hok
  · cases hok
  · cases hok
    exact ⟨⟨rfl, rfl, rfl, rfl⟩, fun hfits => hfits.put_user hfitting⟩

theorem updateSessionActiveOrganization_contexts (headers : HeaderMap) (now : DateTime) (organizationId : String)
    (projectId : Option String) :
    KeepsContexts s (updateSessionActiveOrganization env s headers now organizationId projectId).2 := by
  unfold updateSessionActiveOrganization
  split
  · exact .refl s
  · rename_i hselected
    constructor
    · exact fun hbase => hbase.of_same (updateSessionActiveContextByHash_same s _ _ _ now)
    · exact fun hbase hfits => updateSessionActiveContextByHash_fits hfits (selectedContext_fits hbase hselected) _ now

theorem updateSessionDefaultOrganization_contexts (headers : HeaderMap) (now : DateTime) (organizationId : String)
    (projectId : Option String) :
    KeepsContexts s (updateSessionDefaultOrganization env s headers now organizationId projectId).2 := by
  unfold updateSessionDefaultOrganization
  split
  · exact .refl s
  rename_i session selectedOrganizationId selectedProjectId hselected
  split
  · exact .refl s
  rename_i stored hstored
  have hsame : SameTables s stored := by
    unfold updateUserDefaultContext at hstored
    split at hstored
    · cases hstored
    · cases hstored
      exact ⟨rfl, rfl, rfl, rfl⟩
  constructor
  · exact fun hbase => (hbase.of_same hsame).of_same (updateSessionActiveContextByHash_same stored _ _ _ now)
  · intro hbase hfits
    have hfitting := selectedContext_fits hbase hselected
    have hdefaults := (updateUserDefaultContext_contexts hfitting hstored).2 hfits
    exact updateSessionActiveContextByHash_fits hdefaults (hfitting.kept (.of_eq hsame.projects)) _ now

theorem updateSessionActiveProject_contexts (headers : HeaderMap) (now : DateTime) (projectId : String) :
    KeepsContexts s (updateSessionActiveProject env s headers now projectId).2 := by
  unfold updateSessionActiveProject
  split
  · exact .refl s
  rename_i session project hok
  obtain ⟨found, -, hok⟩ := bind_ok.mp hok
  obtain ⟨normalized, -, hok⟩ := bind_ok.mp hok
  obtain ⟨active, hactive, hok⟩ := bind_ok.mp hok
  cases hok
  constructor
  · exact fun hbase => hbase.of_same (updateSessionActiveContextByHash_same s _ _ _ now)
  · intro hbase hfits
    have hproject := (activeProjectForSession_ok hactive).1
    refine updateSessionActiveContextByHash_fits hfits (fun id hid => ?_) _ now
    cases hid
    exact ⟨project, by rw [hbase.project_named _ project hproject]; exact hproject, rfl⟩

theorem logoutCurrentAuthSession_contexts (headers : HeaderMap) (now : DateTime) :
    KeepsContexts s (logoutCurrentAuthSession env s headers now).2 := by
  unfold logoutCurrentAuthSession
  split
  · exact .refl s
  · exact ⟨fun hbase => hbase.of_same (revokeSessionByHash_same s _), fun _ hfits => revokeSessionByHash_fits hfits _⟩

theorem orKeep_contexts {α : Type} {result : Result (α × TenancyStore)}
    (h : ∀ value t, result = .ok (value, t) → KeepsContexts s t) : KeepsContexts s (s.orKeep Prod.snd result) := by
  cases result with
  | error error => exact .refl s
  | ok updated => exact h updated.1 updated.2 rfl

theorem updateUser_contexts {call : AdminCall} {userId : String} {expectedVersion : Int} {status : DirectoryStatus}
    {user : UserRecord} (hok : updateUser s call userId expectedVersion status = .ok (user, t)) :
    KeepsContexts s t := by
  unfold updateUser at hok
  obtain ⟨_, -, hok⟩ := bind_ok.mp hok
  obtain ⟨_, -, hok⟩ := bind_ok.mp hok
  obtain ⟨_, -, hok⟩ := bind_ok.mp hok
  obtain ⟨⟨updated, stored⟩, hstored, hok⟩ := bind_ok.mp hok
  unfold updateUserStatus at hstored
  obtain ⟨⟨record, users⟩, hrecord, hstored⟩ := bind_ok.mp hstored
  cases hstored
  obtain ⟨old, hold, -, hupdated, rfl⟩ := updateRecord_ok hrecord
  have hkept : KeepsContexts s { s with users := s.users.insert userId updated } := by
    refine ⟨fun hbase => hbase.of_same ⟨rfl, rfl, rfl, rfl⟩, fun _ hfits => hfits.put_user ?_⟩
    rw [hupdated]
    exact hfits.users userId old hold
  dsimp only at hok
  split at hok
  · cases hok
    exact hkept
  · cases hok
    refine ⟨fun hbase => (hkept.base hbase).of_same ⟨rfl, rfl, rfl, rfl⟩, fun hbase hfits => ?_⟩
    refine (hkept.fits hbase hfits).map_sessions fun session => ?_
    split
    · exact ⟨rfl, rfl⟩
    · exact ⟨rfl, rfl⟩

theorem updateOrganization_contexts {call : AdminCall} {organizationId : String} {expectedVersion : Int}
    {status : DirectoryStatus} {organization : OrganizationRecord}
    (hok : updateOrganization s call organizationId expectedVersion status = .ok (organization, t)) :
    KeepsContexts s t := by
  unfold updateOrganization at hok
  obtain ⟨_, -, hok⟩ := bind_ok.mp hok
  obtain ⟨_, -, hok⟩ := bind_ok.mp hok
  unfold updateOrganizationStatus at hok
  obtain ⟨⟨record, organizations⟩, hrecord, hok⟩ := bind_ok.mp hok
  cases hok
  obtain ⟨old, hold, -, hupdated, rfl⟩ := updateRecord_ok hrecord
  refine ⟨fun hbase => { hbase with organization_named := fun id other h => ?_, invited := hbase.invited },
    fun _ hfits => hfits.of_same rfl rfl rfl⟩
  rcases insert_some h with ⟨rfl, rfl⟩ | ⟨-, hother⟩
  · rw [hupdated]
    exact hbase.organization_named id old hold
  · exact hbase.organization_named id other hother

theorem updateProject_contexts {call : AdminCall} {projectId : String} {expectedVersion : Int}
    {status : DirectoryStatus} {project : ProjectRecord}
    (hok : updateProject s call projectId expectedVersion status = .ok (project, t)) : KeepsContexts s t := by
  unfold updateProject at hok
  obtain ⟨_, -, hok⟩ := bind_ok.mp hok
  obtain ⟨_, -, hok⟩ := bind_ok.mp hok
  unfold updateProjectStatus at hok
  obtain ⟨⟨record, projects⟩, hrecord, hok⟩ := bind_ok.mp hok
  cases hok
  obtain ⟨old, hold, -, hupdated, rfl⟩ := updateRecord_ok hrecord
  have hkept : ProjectsKept s { s with projects := s.projects.insert projectId project } := by
    intro id other hother
    by_cases heq : id = projectId
    · subst heq
      cases hold.symm.trans hother
      exact ⟨project, AList.lookup_insert _, by rw [hupdated]⟩
    · exact ⟨other, by rw [AList.lookup_insert_ne heq]; exact hother, rfl⟩
  constructor
  · intro hbase
    refine ⟨hbase.organization_named, fun id other h => ?_, hbase.assigned, hbase.invitation_named,
      fun id invitation h => (hbase.invited id invitation h).kept hkept⟩
    rcases insert_some h with ⟨rfl, rfl⟩ | ⟨-, hother⟩
    · rw [hupdated]
      exact hbase.project_named id old hold
    · exact hbase.project_named id other hother
  · intro _ hfits
    exact ⟨fun id user h => (hfits.users id user h).kept hkept,
      fun sessionHash session h => (hfits.sessions sessionHash session h).kept hkept⟩

theorem upsertExternalLoginIdentity_contexts {store next : DirectoryStore} {request : UpsertExternalLoginIdentityRequest}
    {userId externalIdentityId : String} {user : UserRecord} {identity : ExternalIdentityRecord} {created : Bool}
    (hok : upsertExternalLoginIdentity store request userId externalIdentityId = .ok (user, identity, created, next)) :
    KeepsContexts store.toTenancyStore next.toTenancyStore ∧ next.authSessions = store.authSessions ∧
      (ContextsFit store.toTenancyStore →
        ContextFits next.toTenancyStore user.defaultOrganizationId user.defaultProjectId) := by
  unfold upsertExternalLoginIdentity at hok
  split at hok
  · cases hok
  obtain ⟨found, hfound, hok⟩ := bind_ok.mp hok
  cases found with
  | none =>
    cases hok
    refine ⟨⟨fun hbase => hbase.of_same ⟨rfl, rfl, rfl, rfl⟩, fun _ hfits => hfits.put_user (.none _ _)⟩, rfl, ?_⟩
    exact fun _ => .none _ _
  | some known =>
    cases hok
    unfold updateExistingExternalIdentity at hfound
    split at hfound
    · cases hfound
    split at hfound
    · cases hfound
    split at hfound
    · cases hfound
    rename_i known huser
    split at hfound
    · cases hfound
    cases hfound
    exact ⟨.of_same ⟨rfl, rfl, rfl, rfl⟩ rfl rfl, rfl, fun hfits => hfits.users _ known huser⟩

theorem externalLoginSession_contexts {store next : DirectoryStore} {request : UpsertExternalLoginIdentityRequest}
    {userId externalIdentityId authSessionId rawToken : String} {now : DateTime}
    (hnext : externalLoginSession env store request userId externalIdentityId authSessionId rawToken now = some next) :
    KeepsContexts store.toTenancyStore next.toTenancyStore := by
  unfold externalLoginSession at hnext
  split at hnext
  · cases hnext
  split at hnext
  · cases hnext
    exact .refl _
  rename_i user identity created stored hok
  obtain ⟨hkept, -, hdefaults⟩ := upsertExternalLoginIdentity_contexts hok
  split at hnext
  · cases hnext
    exact hkept
  · cases hnext
    constructor
    · exact fun hbase => (hkept.base hbase).of_same ⟨rfl, rfl, rfl, rfl⟩
    · exact fun hbase hfits => (hkept.fits hbase hfits).put_session (hdefaults hfits)

/-- The session and the invitation of an acceptance that goes through. -/
structure Accepts (env : AuthEnv) (s : TenancyStore) (headers : HeaderMap) (token : String) (now : DateTime)
    (session : AuthSessionRecord) (invitation : OrganizationInvitationRecord) : Prop where
  authenticated : verifyMutatingAuthSessionFromHeaders env s headers now = .ok session
  invited : invitationByRawToken env s token = .ok invitation
  invitee : verifySessionMatchesInvitation s session invitation = .ok ()
  inTime : invitation.status.acceptsAt invitation.expiresAt now = true

theorem invitationByRawToken_stored (hbase : ContextBase s) {token : String} {invitation : OrganizationInvitationRecord}
    (h : invitationByRawToken env s token = .ok invitation) :
    s.organizationInvitations.lookup invitation.invitationId = some invitation := by
  unfold invitationByRawToken at h
  split at h
  · cases h
  split at h
  · cases h
  rename_i invitationId found hfound
  cases h
  have hstored := (findValue_some hfound).1
  rw [hbase.invitation_named invitationId invitation hstored]
  exact hstored

/-- An acceptance changes nothing, or it goes through and the invited context is the one of the session. -/
theorem acceptAuthInvitation_cases (hbase : ContextBase s) (headers : HeaderMap) (token : String) (now : DateTime)
    (organizationMemberId projectMemberId : String) :
    ((acceptAuthInvitation env s headers token now organizationMemberId projectMemberId).2 = s ∧
      ∀ session invitation, ¬ Accepts env s headers token now session invitation) ∨
    ∃ session invitation accepted stored, Accepts env s headers token now session invitation ∧
      Accepted s invitation session.principalId accepted stored ∧
      (acceptAuthInvitation env s headers token now organizationMemberId projectMemberId).2 =
        (updateSessionActiveContextByHash stored session.sessionHash (some accepted.organizationId) accepted.projectId
          now).2 := by
  unfold acceptAuthInvitation
  split
  · rename_i hfailed
    refine .inl ⟨rfl, fun session invitation haccepts => ?_⟩
    have hstored := invitationByRawToken_stored hbase haccepts.invited
    simp [haccepts.authenticated, haccepts.invited, haccepts.invitee, acceptOrganizationInvitation, hstored,
      haccepts.inTime, bind, Except.bind] at hfailed
  · rename_i session accepted stored hok
    obtain ⟨found, hsession, hok⟩ := bind_ok.mp hok
    obtain ⟨invitation, hinvitation, hok⟩ := bind_ok.mp hok
    obtain ⟨_, hinvitee, hok⟩ := bind_ok.mp hok
    obtain ⟨⟨_, _⟩, haccepted, hok⟩ := bind_ok.mp hok
    cases hok
    obtain ⟨hinTime, hleft⟩ := acceptOrganizationInvitation_ok hbase (invitationByRawToken_stored hbase hinvitation)
      haccepted
    refine .inr ⟨session, invitation, accepted, stored, ⟨hsession, hinvitation, hinvitee, hinTime⟩, hleft, ?_⟩
    split
    · rename_i hupdated
      rw [hupdated]
    · rename_i hupdated
      rw [hupdated]

theorem acceptAuthInvitation_base (hbase : ContextBase s) (headers : HeaderMap) (token : String) (now : DateTime)
    (organizationMemberId projectMemberId : String) :
    ContextBase (acceptAuthInvitation env s headers token now organizationMemberId projectMemberId).2 := by
  rcases acceptAuthInvitation_cases hbase headers token now organizationMemberId projectMemberId with
    ⟨hsame, -⟩ | ⟨session, invitation, accepted, stored, -, hleft, hafter⟩
  · rw [hsame]
    exact hbase
  · rw [hafter]
    exact hleft.base.of_same (updateSessionActiveContextByHash_same stored _ _ _ now)

theorem acceptAuthInvitation_fits_iff (hbase : ContextBase s) (hfits : ContextsFit s) (headers : HeaderMap)
    (token : String) (now : DateTime) (organizationMemberId projectMemberId : String) :
    ContextsFit (acceptAuthInvitation env s headers token now organizationMemberId projectMemberId).2 ↔
      ∀ session invitation, Accepts env s headers token now session invitation →
        RepairAgrees s invitation.organizationId invitation.projectId session.principalId := by
  rcases acceptAuthInvitation_cases hbase headers token now organizationMemberId projectMemberId with
    ⟨hsame, hrefused⟩ | ⟨session, invitation, accepted, stored, haccepts, hleft, hafter⟩
  · rw [hsame]
    exact ⟨fun _ session invitation haccepts => absurd haccepts (hrefused session invitation), fun _ => hfits⟩
  have hinvited := hbase.invited _ invitation (invitationByRawToken_stored hbase haccepts.invited)
  have hrepair := repairUserDefaults_fits_iff session.principalId hfits hinvited
  have hsame := updateSessionActiveContextByHash_same stored session.sessionHash (some accepted.organizationId)
    accepted.projectId now
  rw [hafter]
  constructor
  · intro hall other otherInvitation hother
    cases haccepts.authenticated.symm.trans hother.authenticated
    cases haccepts.invited.symm.trans hother.invited
    refine hrepair.mp fun id user huser => ?_
    rw [← hleft.users, ← updateSessionActiveContextByHash_users stored session.sessionHash
      (some accepted.organizationId) accepted.projectId now] at huser
    exact (hall.users id user huser).kept (.of_eq (by rw [hsame.projects, hleft.projects]))
  · intro hall
    have hagrees := hrepair.mpr (hall session invitation haccepts)
    have hstored : ContextsFit stored := by
      constructor
      · intro id user huser
        rw [hleft.users] at huser
        exact (hagrees id user huser).kept (.of_eq hleft.projects)
      · intro sessionHash session hsession
        rw [hleft.sessions] at hsession
        exact (hfits.sessions sessionHash session hsession).kept (.of_eq hleft.projects)
    refine updateSessionActiveContextByHash_fits hstored ?_ session.sessionHash now
    rw [hleft.organization, hleft.project]
    exact hinvited.kept (.of_eq hleft.projects)

end Steps

/-- An invitation that is accepted gives no default project to a user whose default organization is another one. -/
def DefaultsAgree (env : AuthEnv) (store : DirectoryStore) : ContextAction → Prop
  | .acceptAuthInvitation headers token now _ _ =>
    ∀ session invitation, Accepts env store.toTenancyStore headers token now session invitation →
      RepairAgrees store.toTenancyStore invitation.organizationId invitation.projectId session.principalId
  | _ => True

section Runs

variable {env : AuthEnv} {store next : DirectoryStore} {action : ContextAction}

/-- Every step but an acceptance keeps the contexts. -/
theorem contextStep_contexts (hstep : contextStep env store action = some next)
    (haction : ∀ headers token now organizationMemberId projectMemberId,
      action ≠ .acceptAuthInvitation headers token now organizationMemberId projectMemberId) :
    KeepsContexts store.toTenancyStore next.toTenancyStore := by
  cases action with
  | bootstrapDefaultProject request =>
    cases hstep
    exact bootstrapDefaultProject_contexts request
  | externalLogin => exact externalLoginSession_contexts hstep
  | createOrganizationInvitation call organizationId request requestHash invitationId rawToken =>
    cases hstep
    exact createOrganizationInvitation_contexts call organizationId request requestHash invitationId rawToken
  | acceptAuthInvitation headers token now organizationMemberId projectMemberId =>
    exact absurd rfl (haction headers token now organizationMemberId projectMemberId)
  | updateSessionDefaultOrganization headers now organizationId projectId =>
    cases hstep
    exact updateSessionDefaultOrganization_contexts headers now organizationId projectId
  | updateSessionActiveOrganization headers now organizationId projectId =>
    cases hstep
    exact updateSessionActiveOrganization_contexts headers now organizationId projectId
  | updateSessionActiveProject headers now projectId =>
    cases hstep
    exact updateSessionActiveProject_contexts headers now projectId
  | logoutCurrentAuthSession headers now =>
    cases hstep
    exact logoutCurrentAuthSession_contexts headers now
  | updateUser =>
    cases hstep
    exact orKeep_contexts fun _ _ hok => updateUser_contexts hok
  | updateOrganization =>
    cases hstep
    exact orKeep_contexts fun _ _ hok => updateOrganization_contexts hok
  | updateProject =>
    cases hstep
    exact orKeep_contexts fun _ _ hok => updateProject_contexts hok
  | changeMemberships memberships =>
    cases hstep
    exact ⟨fun hbase => ⟨hbase.organization_named, hbase.project_named, memberships.keyed, hbase.invitation_named,
      hbase.invited⟩, fun _ hfits => ⟨hfits.users, hfits.sessions⟩⟩

theorem contextStep_base (hbase : ContextBase store.toTenancyStore) (hstep : contextStep env store action = some next) :
    ContextBase next.toTenancyStore := by
  cases action with
  | acceptAuthInvitation headers token now organizationMemberId projectMemberId =>
    cases hstep
    exact acceptAuthInvitation_base hbase headers token now organizationMemberId projectMemberId
  | _ => exact (contextStep_contexts hstep (by simp)).base hbase

theorem contextStep_fits_iff (hbase : ContextBase store.toTenancyStore) (hfits : ContextsFit store.toTenancyStore)
    (action : ContextAction) :
    (∀ next, contextStep env store action = some next → ContextsFit next.toTenancyStore) ↔
      DefaultsAgree env store action := by
  cases action with
  | acceptAuthInvitation headers token now organizationMemberId projectMemberId =>
    rw [DefaultsAgree, ← acceptAuthInvitation_fits_iff hbase hfits headers token now organizationMemberId projectMemberId]
    constructor
    · exact fun hall => hall _ rfl
    · intro hkept next hnext
      cases hnext
      exact hkept
  | _ => exact ⟨fun _ => trivial, fun _ next hstep => (contextStep_contexts hstep (by simp)).fits hbase hfits⟩

theorem ContextBase.empty : ContextBase .empty := by
  constructor
  all_goals
    intro _ _ h
    cases h

theorem ContextsFit.empty : ContextsFit .empty := by
  constructor
  all_goals
    intro _ _ h
    cases h

end Runs

/-- The project of a user's defaults and of a session's context is one of its organization, in every state that a run
reaches, exactly when no acceptance on the way mixes two organizations. -/
theorem contextsFit_iff (env : AuthEnv) (actions : List ContextAction) :
    Meets (contextStep env) (DefaultsAgree env) (.fresh .empty) actions ↔
      ∀ prior, prior <+: actions → ∀ reached, run (contextStep env) (.fresh .empty) prior = some reached →
        ContextsFit reached.toTenancyStore :=
  meets_iff_reached (fun _ _ _ => contextStep_base) (fun _ action hbase hfits => contextStep_fits_iff hbase hfits action)
    .empty .empty actions

end Starweaver.Gateway.Tenancy
