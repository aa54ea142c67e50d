import Starweaver.Platform.InvitationMachine
import Starweaver.Platform.ProjectAccess

namespace Starweaver.Platform

open Library.AssocMap Library.Checks Library.Machine Library.OrderedMap

/-- How far a call has come, with its locals. -/
inductive MembershipPhase
  | reading (actor : AuthenticatedActor) (projectId : String) (request : CreateProjectMemberRequest)
  | writing (upsert : PlatformProjectMembershipUpsert)
  | accepting (phase : AcceptPhase)
  | loggingIn (completion : OidcLoginCompletionRecord) (progress : LoginProgress) (remaining : List LoginStage)
  | returned (answer : Result Unit)

inductive StatusUpdate
  | organizationMember (organizationId organizationMemberId : String) (request : UpdateStatusRequest)
  | removeOrganizationMember (organizationId organizationMemberId : String) (expectedVersion : Int)
  | projectMember (projectId projectMemberId : String) (request : UpdateStatusRequest)
  | roleBinding (roleBindingId : String) (request : UpdateStatusRequest)
deriving DecidableEq, Repr

def StatusUpdate.toCall : StatusUpdate → AccessCall
  | .organizationMember organizationId organizationMemberId request =>
    .updateOrganizationMemberStatus organizationId organizationMemberId request
  | .removeOrganizationMember organizationId organizationMemberId expectedVersion =>
    .removeOrganizationMember organizationId organizationMemberId expectedVersion
  | .projectMember projectId projectMemberId request => .updateProjectMemberStatus projectId projectMemberId request
  | .roleBinding roleBindingId request => .updateRoleBindingStatus roleBindingId request

section Advance

variable (env : PlatformEnv) (stores : LoginStores) (draws : Draws)

def MembershipPhase.next {α : Type} (answer : Result α) (phase : α → MembershipPhase) : MembershipPhase :=
  match answer with
  | .ok value => phase value
  | .error error => .returned (.error error)

/-- The stores and the phase after one step: the reads of `create_project_member` and its write are two. -/
def MembershipPhase.advance : MembershipPhase → LoginStores × MembershipPhase
  | .reading actor projectId request =>
    (stores, next (projectMemberUpsert env stores.access actor projectId request draws.projectMemberId) .writing)
  | .writing upsert =>
    let (memberships, answer) := upsertProjectMember stores.access.memberships upsert
    ({ stores with access := { stores.access with memberships } },
      next (answer.mapError membershipErrorToService) fun _ => .returned (.ok ()))
  | .accepting phase =>
    let (access, phase, _) := phase.advance env stores.access draws
    ({ stores with access }, .accepting phase)
  | .loggingIn _ _ [] => (stores, .returned (.ok ()))
  | .loggingIn completion progress (stage :: remaining) =>
    let (changed, answer) := stage.run completion progress stores
    (changed, next answer fun progress => .loggingIn completion progress remaining)
  | .returned answer => (stores, .returned answer)

end Advance

structure MembershipMachine where
  stores : LoginStores
  calls : AList fun _ : Nat => MembershipPhase

inductive MembershipStep
  | createProjectMember (id : Nat) (actor : AuthenticatedActor) (projectId : String)
    (request : CreateProjectMemberRequest)
  | acceptInvitation (id : Nat) (actor : AuthenticatedActor) (rawToken : String)
  | completeOidcLogin (id : Nat) (completion : OidcLoginCompletionRecord)
  | updateStatus (actor : AuthenticatedActor) (update : StatusUpdate)
  | advance (id : Nat) (draws : Draws)

namespace MembershipMachine

variable (env : PlatformEnv) (machine : MembershipMachine)

def begins (id : Nat) (phase : MembershipPhase) : Option MembershipMachine :=
  match machine.calls.lookup id with
  | some _ => none
  | none => some { machine with calls := machine.calls.insert id phase }

def step : MembershipStep → Option MembershipMachine
  | .createProjectMember id actor projectId request => machine.begins id (.reading actor projectId request)
  | .acceptInvitation id actor rawToken =>
    machine.begins id (if actor.actorKind = .user then .accepting (.lookup actor rawToken)
      else .returned (.error (.forbidden "user_actor_required")))
  | .completeOidcLogin id completion => machine.begins id (.loggingIn completion .start completionStages)
  | .updateStatus actor update =>
    some { machine with
      stores := { machine.stores with access := machine.stores.access.call env actor update.toCall } }
  | .advance id draws => (machine.calls.lookup id).map fun phase =>
    let (stores, next) := phase.advance env machine.stores draws
    { stores, calls := machine.calls.insert id next }

end MembershipMachine

/-- The memberships of a project name one organization, and their parents belong to it. -/
structure OneOrganization (memberships : MembershipStore) : Prop where
  same : ∀ id record other found, memberships.projectMembers.lookup id = some record →
    memberships.projectMembers.lookup other = some found → record.tenantId = found.tenantId →
    record.projectId = found.projectId → record.organizationId = found.organizationId
  parent : ∀ id record parentId, memberships.projectMembers.lookup id = some record →
    record.organizationMemberId = some parentId →
    ∃ member, memberships.organizationMembers.lookup parentId = some member ∧
      member.organizationId = record.organizationId

section Condition

instance decidableForallStored {ν : Type} {map : Index ν} {p : String → ν → Prop} [∀ id record, Decidable (p id record)] :
    Decidable (∀ id record, map.lookup id = some record → p id record) :=
  decidable_of_iff (∀ entry ∈ map.entries, p entry.1 entry.2)
    ⟨fun h id record hrecord => h ⟨id, record⟩ (AList.mem_lookup_iff.mp hrecord),
      fun h entry hentry => h entry.1 entry.2 (AList.mem_lookup_iff.mpr hentry)⟩

variable (memberships : MembershipStore)

/-- A member of the organization stands under the id. -/
def ParentIn (parentId organizationId : String) : Prop :=
  ∃ member, memberships.organizationMembers.lookup parentId = some member ∧ member.organizationId = organizationId

instance (parentId organizationId : String) : Decidable (ParentIn memberships parentId organizationId) :=
  match h : memberships.organizationMembers.lookup parentId with
  | none => .isFalse fun ⟨member, hmember, _⟩ => by cases h.symm.trans hmember
  | some member => decidable_of_iff (member.organizationId = organizationId)
      ⟨fun horganization => ⟨member, h, horganization⟩, fun ⟨other, hother, horganization⟩ => by
        cases h.symm.trans hother
        exact horganization⟩

/-- The memberships of the project under other ids name the organization. -/
def OthersIn (id tenantId projectId organizationId : String) : Prop :=
  ∀ other record, memberships.projectMembers.lookup other = some record → other ≠ id → record.tenantId = tenantId →
    record.projectId = projectId → record.organizationId = organizationId

instance (id tenantId projectId organizationId : String) :
    Decidable (OthersIn memberships id tenantId projectId organizationId) :=
  inferInstanceAs (Decidable (∀ other record, memberships.projectMembers.lookup other = some record → _))

/-- The project memberships below the id name the organization. -/
def ChildrenIn (parentId organizationId : String) : Prop :=
  ∀ id record, memberships.projectMembers.lookup id = some record → record.organizationMemberId = some parentId →
    record.organizationId = organizationId

instance (parentId organizationId : String) : Decidable (ChildrenIn memberships parentId organizationId) :=
  inferInstanceAs (Decidable (∀ id record, memberships.projectMembers.lookup id = some record → _))

/-- The parent of the request belongs to the organization that the membership then has. -/
def PlatformProjectMembershipUpsert.Fits (upsert : PlatformProjectMembershipUpsert) : Prop :=
  match findOrdered upsert.sameMember memberships.projectMembers with
  | some (_, record) => ParentIn memberships upsert.organizationMemberId record.organizationId
  | none => validateProjectMember upsert.newRecord = .ok () →
    ParentIn memberships upsert.organizationMemberId upsert.organizationId ∧
      OthersIn memberships upsert.projectMemberId upsert.tenantId upsert.projectId upsert.organizationId

instance (upsert : PlatformProjectMembershipUpsert) : Decidable (upsert.Fits memberships) := by
  unfold PlatformProjectMembershipUpsert.Fits
  split <;> infer_instance

/-- A new organization member leaves the project memberships that name its id in its organization. -/
def PlatformOrganizationMembershipUpsert.Fits (upsert : PlatformOrganizationMembershipUpsert) : Prop :=
  findOrdered upsert.sameMember memberships.organizationMembers = none →
    validateOrganizationMember upsert.newRecord = .ok () →
    ChildrenIn memberships upsert.organizationMemberId upsert.organizationId

instance (upsert : PlatformOrganizationMembershipUpsert) : Decidable (upsert.Fits memberships) := by
  unfold PlatformOrganizationMembershipUpsert.Fits
  infer_instance

def AcceptPhase.Fits : AcceptPhase → Prop
  | .joinOrganization actor accepted organizationMemberId _ =>
    (⟨organizationMemberId, accepted.tenantId, accepted.organizationId, actor.principalId, "user"⟩ :
      PlatformOrganizationMembershipUpsert).Fits memberships
  | .joinProject actor accepted projectId organizationMember (some projectMemberId) =>
    (⟨projectMemberId, accepted.tenantId, accepted.organizationId, projectId, actor.principalId,
      organizationMember.organizationMemberId, "user"⟩ : PlatformProjectMembershipUpsert).Fits memberships
  | _ => True

instance (phase : AcceptPhase) : Decidable (phase.Fits memberships) := by
  unfold AcceptPhase.Fits
  split <;> infer_instance

def LoginStage.Fits (completion : OidcLoginCompletionRecord) : LoginStage → Prop
  | .recordOrganizationMember =>
    ChildrenIn memberships completion.organizationMemberId completion.organizationId
  | .recordProjectMember =>
    ParentIn memberships completion.organizationMemberId completion.organizationId ∧
      OthersIn memberships completion.projectMemberId completion.tenantId completion.projectId
        completion.organizationId
  | _ => True

instance (completion : OidcLoginCompletionRecord) (stage : LoginStage) : Decidable (stage.Fits memberships completion) := by
  unfold LoginStage.Fits
  split <;> infer_instance

def MembershipPhase.Fits : MembershipPhase → Prop
  | .writing upsert => upsert.Fits memberships
  | .accepting phase => phase.Fits memberships
  | .loggingIn completion _ (stage :: _) => stage.Fits memberships completion
  | _ => True

instance (phase : MembershipPhase) : Decidable (phase.Fits memberships) := by
  unfold MembershipPhase.Fits
  split <;> infer_instance

end Condition

def MembershipStep.Fits (machine : MembershipMachine) : MembershipStep → Prop
  | .advance id _ => ∀ phase, machine.calls.lookup id = some phase → phase.Fits machine.stores.access.memberships
  | _ => True

instance (machine : MembershipMachine) (step : MembershipStep) : Decidable (step.Fits machine) :=
  match step with
  | .advance id _ =>
    match h : machine.calls.lookup id with
    | none => .isTrue fun phase hphase => by cases h.symm.trans hphase
    | some phase => decidable_of_iff (phase.Fits machine.stores.access.memberships)
        ⟨fun hfits other hother => by cases h.symm.trans hother; exact hfits, fun hfits => hfits phase h⟩
  | .createProjectMember _ _ _ _ | .acceptInvitation _ _ _ | .completeOidcLogin _ _ | .updateStatus _ _ => .isTrue trivial

section Writes

variable {memberships : MembershipStore}

theorem OneOrganization.putProjectMember (h : OneOrganization memberships) {id : String}
    {record : PlatformProjectMembershipRecord}
    (hothers : OthersIn memberships id record.tenantId record.projectId record.organizationId)
    (hparent : ∀ parentId, record.organizationMemberId = some parentId →
      ParentIn memberships parentId record.organizationId) :
    OneOrganization { memberships with projectMembers := memberships.projectMembers.insert id record } where
  same first left second right hleft hright htenant hproject := by
    rcases insert_some hleft with ⟨rfl, rfl⟩ | ⟨hne, hold⟩
    · rcases insert_some hright with ⟨-, rfl⟩ | ⟨hne', hold'⟩
      · rfl
      · exact (hothers second right hold' hne' htenant.symm hproject.symm).symm
    · rcases insert_some hright with ⟨rfl, rfl⟩ | ⟨hne', hold'⟩
      · exact hothers first left hold hne htenant hproject
      · exact h.same first left second right hold hold' htenant hproject
  parent other found parentId hfound hnamed := by
    rcases insert_some hfound with ⟨-, rfl⟩ | ⟨-, hold⟩
    · exact hparent parentId hnamed
    · exact h.parent other found parentId hold hnamed

theorem OneOrganization.putOrganizationMember (h : OneOrganization memberships) {id : String}
    {record : PlatformOrganizationMembershipRecord} (hchildren : ChildrenIn memberships id record.organizationId) :
    OneOrganization { memberships with organizationMembers := memberships.organizationMembers.insert id record } where
  same := h.same
  parent other found parentId hfound hnamed := by
    by_cases heq : parentId = id
    · subst heq
      exact ⟨record, AList.lookup_insert _, (hchildren other found hfound hnamed).symm⟩
    · obtain ⟨member, hmember, horganization⟩ := h.parent other found parentId hfound hnamed
      exact ⟨member, by rwa [AList.lookup_insert_ne heq], horganization⟩

/-- The project memberships below a stored member name its organization. -/
theorem OneOrganization.children (h : OneOrganization memberships) {id : String}
    {member : PlatformOrganizationMembershipRecord} (hmember : memberships.organizationMembers.lookup id = some member) :
    ChildrenIn memberships id member.organizationId := by
  intro other record hrecord hnamed
  obtain ⟨parent, hparent, horganization⟩ := h.parent other record id hrecord hnamed
  cases hmember.symm.trans hparent
  exact horganization.symm

theorem OneOrganization.others (h : OneOrganization memberships) {id : String} {record : PlatformProjectMembershipRecord}
    (hrecord : memberships.projectMembers.lookup id = some record) :
    OthersIn memberships id record.tenantId record.projectId record.organizationId := by
  intro other found hfound _ htenant hproject
  exact h.same other found id record hfound hrecord htenant hproject

theorem OneOrganization.upsertProjectMember (h : OneOrganization memberships)
    (hkeyed : Keyed (·.projectMemberId) memberships.projectMembers) {request : PlatformProjectMembershipUpsert}
    (hfits : request.Fits memberships) : OneOrganization (Platform.upsertProjectMember memberships request).1 := by
  unfold PlatformProjectMembershipUpsert.Fits at hfits
  unfold Platform.upsertProjectMember
  cases hfound : findOrdered request.sameMember memberships.projectMembers with
  | some entry =>
    obtain ⟨id, record⟩ := entry
    obtain ⟨hlookup, -⟩ := hkeyed.findOrdered hfound
    simp only [hfound] at hfits
    have hothers : OthersIn memberships record.projectMemberId record.tenantId record.projectId
        record.organizationId := h.others hlookup
    simp only [hlookup]
    refine h.putProjectMember hothers fun parentId hnamed => ?_
    cases hnamed
    exact hfits
  | none =>
    simp only [hfound] at hfits
    cases hvalid : validateProjectMember request.newRecord with
    | error error => exact h
    | ok =>
      obtain ⟨hparent, hothers⟩ := hfits hvalid
      refine h.putProjectMember hothers fun parentId hnamed => ?_
      cases hnamed
      exact hparent

theorem OneOrganization.upsertOrganizationMember (h : OneOrganization memberships)
    (hkeyed : Keyed (·.organizationMemberId) memberships.organizationMembers)
    {request : PlatformOrganizationMembershipUpsert} (hfits : request.Fits memberships) :
    OneOrganization (Platform.upsertOrganizationMember memberships request).1 := by
  unfold PlatformOrganizationMembershipUpsert.Fits at hfits
  unfold Platform.upsertOrganizationMember
  cases hfound : findOrdered request.sameMember memberships.organizationMembers with
  | some entry =>
    obtain ⟨id, record⟩ := entry
    obtain ⟨hlookup, -⟩ := hkeyed.findOrdered hfound
    have horganization : (request.rejoined record).organizationId = record.organizationId := by
      unfold PlatformOrganizationMembershipUpsert.rejoined
      split <;> rfl
    simp only [hlookup]
    exact h.putOrganizationMember (horganization ▸ h.children hlookup)
  | none =>
    cases hvalid : validateOrganizationMember request.newRecord with
    | error error => exact h
    | ok => exact h.putOrganizationMember (hfits hfound hvalid)

theorem OneOrganization.cascade (h : OneOrganization memberships) (member : PlatformOrganizationMembershipRecord)
    (status : PlatformMembershipStatus) :
    OneOrganization (cascadeProjectMembershipsForOrganizationMember memberships member status) := by
  have hold {id : String} {record : PlatformProjectMembershipRecord}
      (hrecord : (cascadeProjectMembershipsForOrganizationMember memberships member status).projectMembers.lookup id =
        some record) :
      ∃ old, memberships.projectMembers.lookup id = some old ∧ record.tenantId = old.tenantId ∧
        record.projectId = old.projectId ∧ record.organizationId = old.organizationId ∧
        record.organizationMemberId = old.organizationMemberId := by
    obtain ⟨old, hlookup, rfl | ⟨-, rfl⟩⟩ := cascade_some hrecord
    · exact ⟨record, hlookup, rfl, rfl, rfl, rfl⟩
    · exact ⟨old, hlookup, rfl, rfl, rfl, rfl⟩
  constructor
  · intro id record other found hrecord hfound htenant hproject
    obtain ⟨left, hleft, hleftTenant, hleftProject, hleftOrganization, -⟩ := hold hrecord
    obtain ⟨right, hright, hrightTenant, hrightProject, hrightOrganization, -⟩ := hold hfound
    rw [hleftOrganization, hrightOrganization]
    exact h.same id left other right hleft hright (by rw [← hleftTenant, htenant, hrightTenant])
      (by rw [← hleftProject, hproject, hrightProject])
  · intro id record parentId hrecord hnamed
    obtain ⟨left, hleft, -, -, horganization, hparent⟩ := hold hrecord
    rw [horganization]
    exact h.parent id left parentId hleft (hparent ▸ hnamed)

end Writes

section Steps

variable {env : PlatformEnv} {store : AccessStore} {actor : AuthenticatedActor}

theorem OrganizationMemberChange.oneOrganization {organizationMemberId : String} {status : PlatformMembershipStatus}
    {changed : AccessStore} (h : OneOrganization store.memberships)
    (hchange : OrganizationMemberChange env store actor organizationMemberId status changed) :
    OneOrganization changed.memberships := by
  obtain ⟨record, hrecord, -, -, rfl⟩ := hchange
  have hchildren : ChildrenIn store.memberships organizationMemberId record.organizationId := h.children hrecord
  have hput : OneOrganization { store.memberships with
      organizationMembers := store.memberships.organizationMembers.insert organizationMemberId
        { record with status, resourceVersion := record.resourceVersion + 1 } } :=
    h.putOrganizationMember hchildren
  exact hput.cascade _ _

theorem orUnchanged_one {answer : Result AccessStore} (h : OneOrganization store.memberships)
    (hchanged : ∀ changed, answer = .ok changed → OneOrganization changed.memberships) :
    OneOrganization (store.orUnchanged answer).memberships := by
  cases answer with
  | error error => exact h
  | ok changed => exact hchanged changed rfl

theorem OneOrganization.updateStatus (h : OneOrganization store.memberships) (update : StatusUpdate) :
    OneOrganization (store.call env actor update.toCall).memberships := by
  cases update with
  | organizationMember organizationId organizationMemberId request =>
    refine orUnchanged_one h fun changed hchanged => ?_
    obtain ⟨status, -, hchange⟩ := updateOrganizationMember_ok hchanged
    exact hchange.oneOrganization h
  | removeOrganizationMember organizationId organizationMemberId expectedVersion =>
    refine orUnchanged_one h fun changed hchanged => ?_
    exact (removeOrganizationMember_ok hchanged).oneOrganization h
  | projectMember projectId projectMemberId request =>
    refine orUnchanged_one h fun changed hchanged => ?_
    obtain ⟨record, status, hrecord, -, -, -, hmemberships, -⟩ := updateProjectMember_ok hchanged
    have hothers : OthersIn store.memberships projectMemberId record.tenantId record.projectId record.organizationId :=
      h.others hrecord
    rw [hmemberships]
    exact h.putProjectMember hothers fun parentId hnamed => h.parent projectMemberId record parentId hrecord hnamed
  | roleBinding roleBindingId request =>
    rw [StatusUpdate.toCall, AccessStore.call]
    rcases updateRoleBinding_cases env store actor roleBindingId request with hsame | ⟨record, status, -, -, -, hchanged⟩
    · rwa [hsame]
    · rw [hchanged]
      exact h

/-- The memberships are keyed by their ids and name one organization for each project. -/
structure ProjectsHeld (access : AccessStore) : Prop where
  keyed : StoreKeyed access
  one : OneOrganization access.memberships

theorem ProjectsHeld.upsertProjectMember (h : ProjectsHeld store) {request : PlatformProjectMembershipUpsert}
    (hfits : request.Fits store.memberships) :
    ProjectsHeld { store with memberships := (Platform.upsertProjectMember store.memberships request).1 } := by
  refine ⟨⟨?_, upsertProjectMember_keyed h.keyed.projectMembers request, h.keyed.roleBindings, h.keyed.invitations⟩,
    h.one.upsertProjectMember h.keyed.projectMembers hfits⟩
  rw [upsertProjectMember_organizationMembers]
  exact h.keyed.organizationMembers

theorem ProjectsHeld.upsertOrganizationMember (h : ProjectsHeld store) {request : PlatformOrganizationMembershipUpsert}
    (hfits : request.Fits store.memberships) :
    ProjectsHeld { store with memberships := (Platform.upsertOrganizationMember store.memberships request).1 } := by
  refine ⟨⟨upsertOrganizationMember_keyed h.keyed.organizationMembers request, ?_, h.keyed.roleBindings,
    h.keyed.invitations⟩, h.one.upsertOrganizationMember h.keyed.organizationMembers hfits⟩
  rw [upsertOrganizationMember_projectMembers]
  exact h.keyed.projectMembers

theorem ProjectsHeld.accepting (h : ProjectsHeld store) {phase : AcceptPhase} (draws : Draws)
    (hfits : phase.Fits store.memberships) : ProjectsHeld (phase.advance env store draws).1 := by
  cases phase with
  | lookup | check | returned => exact h
  | accept actor rawToken invitation =>
    rw [AcceptPhase.advance]
    cases haccept : acceptInvitation store.invitations (acceptRequest draws actor invitation) with
    | error error => exact h
    | ok pair =>
      obtain ⟨accepted, invitations⟩ := pair
      obtain ⟨before, hbefore, -, -, -, rfl, rfl⟩ := acceptInvitation_ok haccept
      have hid : before.invitationId = invitation.invitationId := h.keyed.invitations _ before hbefore
      exact ⟨{ h.keyed with invitations := h.keyed.invitations.insert hid }, h.one⟩
  | joinOrganization actor accepted organizationMemberId projectMemberId => exact h.upsertOrganizationMember hfits
  | joinProject actor accepted projectId organizationMember projectMemberId =>
    cases projectMemberId with
    | none => exact h
    | some projectMemberId => exact h.upsertProjectMember hfits

theorem ProjectsHeld.stage {stores : LoginStores} (h : ProjectsHeld stores.access)
    {completion : OidcLoginCompletionRecord} {stage : LoginStage} (progress : LoginProgress)
    (hfits : stage.Fits stores.access.memberships completion) :
    ProjectsHeld (stage.run completion progress stores).1.access := by
  cases stage with
  | recordOrganizationMember =>
    rw [LoginStage.run]
    rcases wrote_cases progress stores membershipErrorToService
        (fun memberships => { stores with access := { stores.access with memberships } })
        (recordOrganizationMember stores.access.memberships completion.organizationMember) with
      ⟨memberships, hrecord, hwrote⟩ | ⟨error, hwrote⟩
    · obtain ⟨-, hinsert⟩ := bind_unit_ok.mp hrecord
      cases hinsert
      rw [hwrote]
      exact ⟨{ h.keyed with organizationMembers := h.keyed.organizationMembers.insert rfl },
        h.one.putOrganizationMember hfits⟩
    · rw [hwrote]
      exact h
  | recordProjectMember =>
    rw [LoginStage.run]
    rcases wrote_cases progress stores membershipErrorToService
        (fun memberships => { stores with access := { stores.access with memberships } })
        (recordProjectMember stores.access.memberships completion.projectMember) with
      ⟨memberships, hrecord, hwrote⟩ | ⟨error, hwrote⟩
    · obtain ⟨-, hinsert⟩ := bind_unit_ok.mp hrecord
      cases hinsert
      rw [hwrote]
      refine ⟨{ h.keyed with projectMembers := h.keyed.projectMembers.insert rfl },
        h.one.putProjectMember hfits.2 fun parentId hnamed => ?_⟩
      cases hnamed
      exact hfits.1
    · rw [hwrote]
      exact h
  | recordRoleBinding =>
    rw [LoginStage.run]
    rcases wrote_cases progress stores roleBindingErrorToService
        (fun roleBindings => { stores with access := { stores.access with roleBindings } })
        (recordRoleBinding stores.access.roleBindings completion.roleBinding) with
      ⟨roleBindings, hrecord, hwrote⟩ | ⟨error, hwrote⟩
    · obtain ⟨-, hinsert⟩ := bind_unit_ok.mp hrecord
      cases hinsert
      rw [hwrote]
      exact ⟨{ h.keyed with roleBindings := h.keyed.roleBindings.insert rfl }, h.one⟩
    · rw [hwrote]
      exact h
  | readUser | recordUser | linkIdentity | findAttempt | consumeAttempt | recordSession =>
    rw [LoginStage.run_access]
    · exact h
    · trivial

theorem ProjectsHeld.advance {stores : LoginStores} (h : ProjectsHeld stores.access) {phase : MembershipPhase}
    (draws : Draws) (hfits : phase.Fits stores.access.memberships) :
    ProjectsHeld (phase.advance env stores draws).1.access := by
  cases phase with
  | reading | returned => exact h
  | writing upsert => exact h.upsertProjectMember hfits
  | accepting phase => exact h.accepting draws hfits
  | loggingIn completion progress remaining =>
    cases remaining with
    | nil => exact h
    | cons stage remaining => exact h.stage progress hfits

theorem ProjectsHeld.step {machine next : MembershipMachine} (h : ProjectsHeld machine.stores.access)
    {action : MembershipStep} (hfits : action.Fits machine) (hstep : machine.step env action = some next) :
    ProjectsHeld next.stores.access := by
  have hbegins {id : Nat} {phase : MembershipPhase} (hbegins : machine.begins id phase = some next) :
      ProjectsHeld next.stores.access := by
    unfold MembershipMachine.begins at hbegins
    split at hbegins
    · cases hbegins
    · cases hbegins
      exact h
  cases action with
  | createProjectMember | acceptInvitation | completeOidcLogin => exact hbegins hstep
  | updateStatus actor update =>
    cases hstep
    exact ⟨h.keyed.call _, h.one.updateStatus update⟩
  | advance id draws =>
    obtain ⟨phase, hphase, rfl⟩ := Option.map_eq_some_iff.mp hstep
    exact h.advance draws (hfits phase hphase)

end Steps

/-- A project belongs to one organization over every interleaving whose writes fit the memberships that they find. -/
theorem projects_oneOrganization {env : PlatformEnv} {machine final : MembershipMachine} {steps : List MembershipStep}
    (hkeyed : StoreKeyed machine.stores.access) (hone : OneOrganization machine.stores.access.memberships)
    (hmeets : Meets (MembershipMachine.step env) (fun machine step => step.Fits machine) machine steps)
    (hrun : run (MembershipMachine.step env) machine steps = some final) :
    OneOrganization final.stores.access.memberships := by
  have hstep (machine : MembershipMachine) (step : MembershipStep) (next : MembershipMachine)
      (hheld : ProjectsHeld machine.stores.access) (hfits : step.Fits machine)
      (hnext : machine.step env step = some next) : ProjectsHeld next.stores.access := hheld.step hfits hnext
  exact (run_invariant hstep ⟨hkeyed, hone⟩ hmeets hrun).one

section Examples

def sharedEnv : PlatformEnv := ⟨[], fun _ => String.ofList (List.replicate 64 'a')⟩

/-- Two organizations, two members of the first, and an invitation of the second to a project that has no member yet. -/
def sharedStores : LoginStores where
  users := ∅
  externalIdentities := ∅
  providers := ∅
  attempts := ∅
  sessions := ∅
  access :=
    { memberships :=
        { organizationMembers := ((∅ : Index PlatformOrganizationMembershipRecord).insert "om_a"
            ⟨"om_a", "ten_t", "org_a", "usr_a", "user", .active, 1⟩).insert "om_c"
              ⟨"om_c", "ten_t", "org_a", "usr_c", "user", .active, 1⟩
          projectMembers := ∅ }
      roleBindings := (∅ : Index PlatformRoleBindingRecord).insert "rb_a"
        ⟨"rb_a", "ten_t", some "org_a", none, "usr_a", "organization_admin", .active, 1⟩
      invitations := (∅ : Index PlatformOrganizationInvitationRecord).insert "inv_x"
        ⟨"inv_x", "ten_t", "org_b", some "prj_a", none, some "usr_b", String.ofList (List.replicate 64 'a'),
          "organization_member", .pending, 100, none, "usr_c", 1, 10, 10⟩ }

def sharedStep : MembershipStep := .advance 0 ⟨20, "om_n", "pm_n"⟩

def invitedStep : MembershipStep := .advance 1 ⟨20, "om_b", "pm_b"⟩

def shareProject : List MembershipStep :=
  [.createProjectMember 0 ⟨"ten_t", none, none, "usr_a", .user⟩ "prj_a" ⟨some "pm_a", "om_a"⟩, sharedStep, sharedStep]

/-- A second member comes in between the checks and the write of the first. -/
def shareProjectTwice : List MembershipStep :=
  [.createProjectMember 0 ⟨"ten_t", none, none, "usr_a", .user⟩ "prj_a" ⟨some "pm_a", "om_a"⟩, sharedStep,
    .createProjectMember 1 ⟨"ten_t", none, none, "usr_a", .user⟩ "prj_a" ⟨some "pm_c", "om_c"⟩, invitedStep, invitedStep,
    sharedStep]

def acceptShared : List MembershipStep :=
  [.acceptInvitation 1 ⟨"ten_t", none, none, "usr_b", .user⟩ "swp_inv_x", invitedStep, invitedStep, invitedStep,
    invitedStep, invitedStep]

theorem sharedStores_keyed : StoreKeyed sharedStores.access := by
  refine ⟨Keyed.insert ?_ rfl, Keyed.empty _, (Keyed.empty _).insert rfl, (Keyed.empty _).insert rfl⟩
  exact (Keyed.empty _).insert rfl

theorem sharedStores_one : OneOrganization sharedStores.access.memberships := by
  constructor
  · rintro id record other found ⟨⟩
  · rintro id record parentId ⟨⟩

theorem sharedProject_oneOrganization :
    ∃ final, run (MembershipMachine.step sharedEnv) ⟨sharedStores, ∅⟩ shareProjectTwice = some final ∧
      final.stores.access.memberships.projectMembers.lookup "pm_a" =
        some ⟨"pm_a", "ten_t", "org_a", "prj_a", "usr_a", some "om_a", "user", .active, 1⟩ ∧
      final.stores.access.memberships.projectMembers.lookup "pm_c" =
        some ⟨"pm_c", "ten_t", "org_a", "prj_a", "usr_c", some "om_c", "user", .active, 1⟩ ∧
      OneOrganization final.stores.access.memberships := by
  have hmembers : (run (MembershipMachine.step sharedEnv) ⟨sharedStores, ∅⟩ shareProjectTwice).map
      (fun final => (final.stores.access.memberships.projectMembers.lookup "pm_a",
        final.stores.access.memberships.projectMembers.lookup "pm_c")) =
      some (some ⟨"pm_a", "ten_t", "org_a", "prj_a", "usr_a", some "om_a", "user", .active, 1⟩,
        some ⟨"pm_c", "ten_t", "org_a", "prj_a", "usr_c", some "om_c", "user", .active, 1⟩) := by decide +kernel
  obtain ⟨final, hrun, hfinal⟩ := Option.map_eq_some_iff.mp hmembers
  obtain ⟨hfirst, hsecond⟩ := Prod.mk.inj hfinal
  have hmeets : Meets (MembershipMachine.step sharedEnv) (fun machine step => step.Fits machine)
      ⟨sharedStores, ∅⟩ shareProjectTwice := by decide +kernel
  exact ⟨final, hrun, hfirst, hsecond, projects_oneOrganization sharedStores_keyed sharedStores_one hmeets hrun⟩

/-- The invitation of another organization gives the project a membership of its own. -/
theorem acceptedShare_twoOrganizations :
    StoreKeyed sharedStores.access ∧ OneOrganization sharedStores.access.memberships ∧
    ∃ final, run (MembershipMachine.step sharedEnv) ⟨sharedStores, ∅⟩ (shareProject ++ acceptShared) = some final ∧
      ¬ OneOrganization final.stores.access.memberships := by
  refine ⟨sharedStores_keyed, sharedStores_one, ?_⟩
  have hmembers : (run (MembershipMachine.step sharedEnv) ⟨sharedStores, ∅⟩ (shareProject ++ acceptShared)).map
      (fun final => (final.stores.access.memberships.projectMembers.lookup "pm_a",
        final.stores.access.memberships.projectMembers.lookup "pm_b")) =
      some (some ⟨"pm_a", "ten_t", "org_a", "prj_a", "usr_a", some "om_a", "user", .active, 1⟩,
        some ⟨"pm_b", "ten_t", "org_b", "prj_a", "usr_b", some "om_b", "user", .active, 1⟩) := by decide +kernel
  obtain ⟨final, hrun, hfinal⟩ := Option.map_eq_some_iff.mp hmembers
  obtain ⟨hshared, haccepted⟩ := Prod.mk.inj hfinal
  refine ⟨final, hrun, fun hone => ?_⟩
  exact absurd (hone.same "pm_a" _ "pm_b" _ hshared haccepted rfl rfl) (by decide)

end Examples

end Starweaver.Platform
