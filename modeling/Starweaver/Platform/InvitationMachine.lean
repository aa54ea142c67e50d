import Starweaver.Library.Machine
import Starweaver.Platform.AccessWrites

namespace Starweaver.Platform

open Library.AssocMap Library.Checks Library.Machine Library.OrderedMap Library.Text

/-- How far the acceptance of an invitation has come, with its locals. -/
inductive AcceptPhase
  | lookup (actor : AuthenticatedActor) (rawToken : String)
  | check (actor : AuthenticatedActor) (rawToken : String) (invitation : PlatformOrganizationInvitationRecord)
  | accept (actor : AuthenticatedActor) (rawToken : String) (invitation : PlatformOrganizationInvitationRecord)
  | joinOrganization (actor : AuthenticatedActor) (accepted : PlatformOrganizationInvitationRecord)
    (organizationMemberId : String) (projectMemberId : Option String)
  | joinProject (actor : AuthenticatedActor) (accepted : PlatformOrganizationInvitationRecord) (projectId : String)
    (organizationMember : PlatformOrganizationMembershipRecord) (projectMemberId : Option String)
  | returned (answer : Result Unit)
deriving DecidableEq

inductive InvitationEvent
  | created (rawToken : String) (invitation : PlatformOrganizationInvitationRecord)
  | revoked (invitation : PlatformOrganizationInvitationRecord)
  | accepted (rawToken : String) (actor : AuthenticatedActor) (invitation : PlatformOrganizationInvitationRecord)
    (nowUnix : Int)
deriving DecidableEq, Repr

/-- The time of a step, and the ids that the service draws in it. -/
structure Draws where
  nowUnix : Int
  organizationMemberId : String
  projectMemberId : String
deriving DecidableEq, Repr

section Advance

variable (env : PlatformEnv) (store : AccessStore) (draws : Draws)

/-- The request of `accept_organization_invitation_for_actor`. -/
def acceptRequest (actor : AuthenticatedActor) (invitation : PlatformOrganizationInvitationRecord) :
    AcceptPlatformOrganizationInvitationRequest :=
  ⟨invitation.invitationId, actor.principalId, draws.organizationMemberId,
    invitation.projectId.map fun _ => draws.projectMemberId, draws.nowUnix⟩

def AcceptPhase.next {α : Type} (answer : Result α) (phase : α → AcceptPhase) : AcceptPhase :=
  match answer with
  | .ok value => phase value
  | .error error => .returned (.error error)

/-- The store, the phase and the event after one step of an acceptance. -/
def AcceptPhase.advance : AcceptPhase → AccessStore × AcceptPhase × Option InvitationEvent
  | .lookup actor rawToken =>
    (store, next (organizationInvitationByRawToken env store rawToken) (.check actor rawToken), none)
  | .check actor rawToken invitation =>
    (store, next (ensureActorMatchesInvitation actor invitation) fun _ => .accept actor rawToken invitation, none)
  | .accept actor rawToken invitation =>
    let request := acceptRequest draws actor invitation
    match acceptInvitation store.invitations request with
    | .error error => (store, .returned (.error (invitationErrorToService error)), none)
    | .ok (accepted, invitations) =>
      ({ store with invitations },
        .joinOrganization actor accepted request.organizationMemberId request.projectMemberId,
        some (.accepted rawToken actor accepted draws.nowUnix))
  | .joinOrganization actor accepted organizationMemberId projectMemberId =>
    let (memberships, answer) := upsertOrganizationMember store.memberships
      ⟨organizationMemberId, accepted.tenantId, accepted.organizationId, actor.principalId, "user"⟩
    ({ store with memberships },
      next (answer.mapError membershipErrorToService) fun organizationMember =>
        match accepted.projectId with
        | none => .returned (.ok ())
        | some projectId => .joinProject actor accepted projectId organizationMember projectMemberId, none)
  | .joinProject actor accepted projectId organizationMember projectMemberId =>
    match projectMemberId with
    | none => (store, .returned (.error (.internal "project_member_id_missing")), none)
    | some projectMemberId =>
      let (memberships, answer) := upsertProjectMember store.memberships
        ⟨projectMemberId, accepted.tenantId, accepted.organizationId, projectId, actor.principalId,
          organizationMember.organizationMemberId, "user"⟩
      ({ store with memberships }, next (answer.mapError membershipErrorToService) fun _ => .returned (.ok ()), none)
  | .returned answer => (store, .returned answer, none)

end Advance

/-- The stores, the acceptances that have come in, and the history of the run with its last event first. -/
structure InvitationMachine where
  store : AccessStore
  calls : AList fun _ : Nat => AcceptPhase
  history : List InvitationEvent

inductive InvitationStep
  | create (actor : AuthenticatedActor) (organizationId : String) (request : CreateOrganizationInvitationRequest)
    (nowUnix : Int) (newId rawToken : String)
  | revoke (actor : AuthenticatedActor) (organizationId invitationId : String) (expectedVersion nowUnix : Int)
  | comeIn (id : Nat) (actor : AuthenticatedActor) (rawToken : String)
  | advance (id : Nat) (draws : Draws)
deriving DecidableEq, Repr

/-- The raw token of an invitation that was made in the run. -/
def TokenDrawn (history : List InvitationEvent) (rawToken : String) : Prop :=
  ∃ token invitation, .created token invitation ∈ history ∧ trim token = trim rawToken

instance (history : List InvitationEvent) (rawToken : String) : Decidable (TokenDrawn history rawToken) :=
  decidable_of_iff (history.any (fun event => match event with
      | .created token _ => trim token == trim rawToken
      | _ => false) = true) (by
    rw [List.any_eq_true]
    constructor
    · rintro ⟨event, hevent, hdrawn⟩
      cases event with
      | created token invitation => exact ⟨token, invitation, hevent, eq_of_beq hdrawn⟩
      | revoked | accepted => cases hdrawn
    · rintro ⟨token, invitation, hevent, hsame⟩
      exact ⟨.created token invitation, hevent, beq_iff_eq.mpr hsame⟩)

namespace InvitationMachine

variable (env : PlatformEnv) (machine : InvitationMachine)

def start (store : AccessStore) : InvitationMachine := ⟨store, ∅, []⟩

/-- The service never draws a raw token twice. -/
def step : InvitationStep → Option InvitationMachine
  | .create actor organizationId request nowUnix newId rawToken =>
    if TokenDrawn machine.history rawToken then none
    else match createOrganizationInvitation env machine.store actor organizationId request nowUnix newId rawToken,
        organizationInvitationRecordFromCreateRequest env actor request organizationId nowUnix newId rawToken with
      | .ok store, .ok invitation =>
        some { machine with store, history := .created rawToken invitation :: machine.history }
      | _, _ => some machine
  | .revoke actor organizationId invitationId expectedVersion nowUnix =>
    match revokeOrganizationInvitation env machine.store actor organizationId invitationId expectedVersion nowUnix with
    | .ok (invitation, invitations) =>
      some { machine with
        store := { machine.store with invitations }
        history := .revoked invitation :: machine.history }
    | .error _ => some machine
  | .comeIn id actor rawToken =>
    match machine.calls.lookup id with
    | some _ => none
    | none => some { machine with
        calls := machine.calls.insert id
          (if actor.actorKind = .user then .lookup actor rawToken
          else .returned (.error (.forbidden "user_actor_required"))) }
  | .advance id draws => (machine.calls.lookup id).map fun phase =>
    let (store, next, event) := phase.advance env machine.store draws
    { store, calls := machine.calls.insert id next, history := event.toList ++ machine.history }

end InvitationMachine

end Starweaver.Platform
