import Starweaver.Platform.VerifiedLogins

namespace Starweaver.Platform

open Library.AssocMap Library.Checks Library.OrderedMap

/-- The same users, external identities, login attempts, sessions, memberships and role bindings. -/
structure SameLoginRecords (stores changed : LoginStores) : Prop where
  users : ∀ id, changed.users.lookup id = stores.users.lookup id
  externalIdentities : ∀ id, changed.externalIdentities.lookup id = stores.externalIdentities.lookup id
  attempts : ∀ stateHash, changed.attempts.lookup stateHash = stores.attempts.lookup stateHash
  sessions : ∀ tokenHash, changed.sessions.lookup tokenHash = stores.sessions.lookup tokenHash
  organizationMembers : ∀ id, changed.access.memberships.organizationMembers.lookup id =
    stores.access.memberships.organizationMembers.lookup id
  projectMembers : ∀ id, changed.access.memberships.projectMembers.lookup id =
    stores.access.memberships.projectMembers.lookup id
  roleBindings : ∀ id, changed.access.roleBindings.lookup id = stores.access.roleBindings.lookup id

theorem SameLoginRecords.refl (stores : LoginStores) : SameLoginRecords stores stores :=
  ⟨fun _ => rfl, fun _ => rfl, fun _ => rfl, fun _ => rfl, fun _ => rfl, fun _ => rfl, fun _ => rfl⟩

/-- The stored identity of the subject, as a login of the record leaves it. -/
def PlatformExternalIdentityRecord.linkedFrom (record existing : PlatformExternalIdentityRecord) :
    PlatformExternalIdentityRecord :=
  { existing with
    providerKind := record.providerKind
    email := record.email
    emailVerified := record.emailVerified
    status := .active }

/-- The record is valid, and what is stored of its subject belongs to the same principal. -/
def LinksIdentity (identities : Index PlatformExternalIdentityRecord) (record : PlatformExternalIdentityRecord) : Prop :=
  validateExternalIdentity record = .ok () ∧
    ∀ id found, findOrdered record.sameSubject identities = some (id, found) →
      ∃ existing, identities.lookup found.externalIdentityId = some existing ∧
        existing.principalId = record.principalId ∧ validateExternalIdentity (record.linkedFrom existing) = .ok ()

/-- The first attempt that the completion names can still be consumed. -/
def AttemptAvailable (attempts : Index OidcLoginAttemptRecord) (completion : OidcLoginCompletionRecord) : Prop :=
  ∃ stateHash attempt, findOrdered completion.names attempts = some (stateHash, attempt) ∧ attempt.status = .active ∧
    completion.consumedAtUnix < attempt.expiresAtUnix

/-- The records that are written last pass their checks. -/
structure RecordsValid (completion : OidcLoginCompletionRecord) : Prop where
  session : validateSessionRecord completion.session = .ok ()
  organizationMember : validateOrganizationMember completion.organizationMember = .ok ()
  projectMember : validateProjectMember completion.projectMember = .ok ()
  roleBinding : validateRoleBinding completion.roleBinding = .ok ()

section Stages

variable {completion : OidcLoginCompletionRecord} {progress next : LoginProgress} {stores changed : LoginStores}

theorem upsertExternalIdentity_ok_iff {identities : Index PlatformExternalIdentityRecord}
    {record : PlatformExternalIdentityRecord} :
    (∃ linked, (upsertExternalIdentity identities record).2 = .ok linked) ↔ LinksIdentity identities record := by
  unfold upsertExternalIdentity LinksIdentity
  cases hvalid : validateExternalIdentity record with
  | error error =>
    constructor
    · rintro ⟨linked, ⟨⟩⟩
    · rintro ⟨⟨⟩, -⟩
  | ok =>
    cases hfound : findOrdered record.sameSubject identities with
    | none => exact ⟨fun _ => ⟨rfl, fun id found h => by cases h⟩, fun _ => ⟨record, rfl⟩⟩
    | some entry =>
      obtain ⟨id, found⟩ := entry
      simp only
      cases hexisting : identities.lookup found.externalIdentityId with
      | none =>
        constructor
        · rintro ⟨linked, ⟨⟩⟩
        · rintro ⟨-, h⟩
          obtain ⟨existing, hlookup, -⟩ := h id found rfl
          cases hexisting.symm.trans hlookup
      | some existing =>
        simp only
        split
        · rename_i hother
          constructor
          · rintro ⟨linked, ⟨⟩⟩
          · rintro ⟨-, h⟩
            obtain ⟨same, hlookup, hprincipal, -⟩ := h id found rfl
            cases hexisting.symm.trans hlookup
            exact absurd hprincipal hother
        · rename_i hsame
          constructor
          · rintro ⟨linked, hlinked⟩
            have hchecked : (validateExternalIdentity (record.linkedFrom existing) >>= fun _ =>
                .ok (record.linkedFrom existing)) = .ok linked := hlinked
            refine ⟨trivial, fun otherId other h => ?_⟩
            cases h
            exact ⟨existing, hexisting, not_not.mp hsame, (bind_unit_ok.mp hchecked).1⟩
          · rintro ⟨-, h⟩
            obtain ⟨same, hlookup, -, hlinked⟩ := h id found rfl
            cases hexisting.symm.trans hlookup
            exact ⟨record.linkedFrom existing, bind_unit_ok.mpr ⟨hlinked, rfl⟩⟩

theorem runStages_guarded {stage : LoginStage} {stages : List LoginStage} {guard : Prop}
    (hpass : guard → stage.run completion progress stores = (changed, .ok next))
    (hstop : ¬ guard → ∃ error, (stage.run completion progress stores).2 = .error error) :
    (runStages completion (stage :: stages) progress stores).2 = .ok () ↔
      guard ∧ (runStages completion stages next changed).2 = .ok () := by
  rw [runStages]
  by_cases hguard : guard
  · rw [hpass hguard]
    exact ⟨fun h => ⟨hguard, h⟩, And.right⟩
  · obtain ⟨error, herror⟩ := hstop hguard
    have hrun : stage.run completion progress stores = ((stage.run completion progress stores).1, .error error) :=
      Prod.ext rfl herror
    rw [hrun]
    constructor
    · intro h
      cases h
    · exact fun h => absurd h.1 hguard

theorem runStages_wrote {ε α : Type} {toService : ε → ServiceError} {write : α → LoginStores} {check : Except ε Unit}
    {value : α} (stage : LoginStage) {stages : List LoginStage}
    (hstage : stage.run completion progress stores = wrote stores progress toService write (check.bind fun _ => .ok value)) :
    (runStages completion (stage :: stages) progress stores).2 = .ok () ↔
      check = .ok () ∧ (runStages completion stages progress (write value)).2 = .ok () := by
  apply runStages_guarded
  · rintro rfl
    exact hstage
  · intro hfails
    rw [hstage]
    cases check with
    | error error => exact ⟨_, rfl⟩
    | ok => exact absurd rfl hfails

theorem runStages_users {stages : List LoginStage} (h : .recordUser ∉ stages) :
    (runStages completion stages progress stores).1.users = stores.users := by
  induction stages generalizing progress stores with
  | nil => rfl
  | cons stage stages ih =>
    have hstage : (stage.run completion progress stores).1.users = stores.users := by
      cases stage with
      | recordUser => exact absurd List.mem_cons_self h
      | readUser | linkIdentity | findAttempt => rfl
      | consumeAttempt =>
        rcases LoginStage.run_consumeAttempt completion progress stores with ⟨error, hrun⟩ | ⟨_, _, _, _, _, _, _, hrun⟩
        · rw [hrun]
        · rw [hrun]
      | recordSession | recordOrganizationMember | recordProjectMember | recordRoleBinding =>
        rw [LoginStage.run]
        apply wrote_keeps fun stores => stores.users
        exact fun _ => rfl
    rw [runStages]
    split
    · rename_i changed next hrun
      rw [hrun] at hstage
      exact (ih fun hmem => h (.tail _ hmem)).trans hstage
    · rename_i changed error hrun
      rw [hrun] at hstage
      exact hstage

/-- The stages after the read of the user. -/
theorem completeOidcLogin_eq (stores : LoginStores) (completion : OidcLoginCompletionRecord) :
    completeOidcLogin stores completion = runStages completion (.recordUser :: .linkIdentity :: .findAttempt ::
      .consumeAttempt :: .recordSession :: .recordOrganizationMember :: .recordProjectMember :: [.recordRoleBinding])
      ⟨stores.users.lookup completion.userId, none⟩ stores := by
  rw [completeOidcLogin, completionStages, runStages, LoginStage.run]
  simp only [LoginProgress.start]

theorem runStages_linkIdentity {stages : List LoginStage} :
    (runStages completion (.linkIdentity :: stages) progress stores).2 = .ok () ↔
      LinksIdentity stores.externalIdentities completion.externalIdentity ∧
        (runStages completion stages progress { stores with
          externalIdentities :=
            (upsertExternalIdentity stores.externalIdentities completion.externalIdentity).1 }).2 = .ok () := by
  apply runStages_guarded
  · intro hlinks
    obtain ⟨linked, hlinked⟩ := upsertExternalIdentity_ok_iff.mpr hlinks
    simp only [LoginStage.run, hlinked]
    rfl
  · intro hfails
    cases hanswer : (upsertExternalIdentity stores.externalIdentities completion.externalIdentity).2 with
    | ok linked => exact absurd (upsertExternalIdentity_ok_iff.mp ⟨linked, hanswer⟩) hfails
    | error error =>
      simp only [LoginStage.run, hanswer]
      exact ⟨_, rfl⟩

section Records

variable (completion) (progress) (stores)

theorem LoginStage.run_recordUser : LoginStage.recordUser.run completion progress stores =
    wrote stores progress userErrorToService (fun users => { stores with users })
      ((validatePlatformUserRecord (completion.user progress.existingUser)).bind fun _ =>
        .ok (stores.users.insert completion.userId (completion.user progress.existingUser))) := rfl

theorem LoginStage.run_recordSession : LoginStage.recordSession.run completion progress stores =
    wrote stores progress (fun error => .authenticationFailed error.asStr) (fun sessions => { stores with sessions })
      ((validateSessionRecord completion.session).bind fun _ =>
        .ok (stores.sessions.insert completion.session.tokenHash completion.session)) := rfl

theorem LoginStage.run_recordOrganizationMember : LoginStage.recordOrganizationMember.run completion progress stores =
    wrote stores progress membershipErrorToService
      (fun memberships => { stores with access := { stores.access with memberships } })
      ((validateOrganizationMember completion.organizationMember).bind fun _ =>
        .ok { stores.access.memberships with
          organizationMembers := stores.access.memberships.organizationMembers.insert completion.organizationMemberId
            completion.organizationMember }) := rfl

theorem LoginStage.run_recordProjectMember : LoginStage.recordProjectMember.run completion progress stores =
    wrote stores progress membershipErrorToService
      (fun memberships => { stores with access := { stores.access with memberships } })
      ((validateProjectMember completion.projectMember).bind fun _ =>
        .ok { stores.access.memberships with
          projectMembers := stores.access.memberships.projectMembers.insert completion.projectMemberId
            completion.projectMember }) := rfl

theorem LoginStage.run_recordRoleBinding : LoginStage.recordRoleBinding.run completion progress stores =
    wrote stores progress roleBindingErrorToService
      (fun roleBindings => { stores with access := { stores.access with roleBindings } })
      ((validateRoleBinding completion.roleBinding).bind fun _ =>
        .ok (stores.access.roleBindings.insert completion.organizationRoleBindingId completion.roleBinding)) := rfl

end Records

theorem runStages_records (progress : LoginProgress) (stores : LoginStores) :
    (runStages completion [.recordSession, .recordOrganizationMember, .recordProjectMember, .recordRoleBinding]
      progress stores).2 = .ok () ↔ RecordsValid completion := by
  rw [runStages_wrote _ (LoginStage.run_recordSession _ _ _),
    runStages_wrote _ (LoginStage.run_recordOrganizationMember _ _ _),
    runStages_wrote _ (LoginStage.run_recordProjectMember _ _ _),
    runStages_wrote _ (LoginStage.run_recordRoleBinding _ _ _)]
  constructor
  · rintro ⟨hsession, horganizationMember, hprojectMember, hroleBinding, -⟩
    exact ⟨hsession, horganizationMember, hprojectMember, hroleBinding⟩
  · rintro ⟨hsession, horganizationMember, hprojectMember, hroleBinding⟩
    exact ⟨hsession, horganizationMember, hprojectMember, hroleBinding, rfl⟩

/-- Nothing comes between the search for the attempt and its consumption. -/
theorem runStages_attempt {stages : List LoginStage} {accepted : Prop}
    (hrest : ∀ progress stores, (runStages completion stages progress stores).2 = .ok () ↔ accepted) :
    (runStages completion (.findAttempt :: .consumeAttempt :: stages) progress stores).2 = .ok () ↔
      AttemptAvailable stores.attempts completion ∧ accepted := by
  cases hfound : findOrdered completion.names stores.attempts with
  | none =>
    have hfind : findAttempt stores.attempts completion = .error attemptUnavailable := by rw [findAttempt, hfound]
    rw [runStages, LoginStage.run, hfind]
    constructor
    · intro h
      cases h
    · rintro ⟨⟨stateHash, attempt, hattempt, -⟩, -⟩
      cases hfound.symm.trans hattempt
  | some entry =>
    obtain ⟨stateHash, attempt⟩ := entry
    obtain ⟨hlookup, hnames⟩ := findOrdered_some hfound
    have hfind : findAttempt stores.attempts completion = .ok stateHash := by rw [findAttempt, hfound]
    have hconsume : consumeAttempt stores.attempts completion stateHash =
        if attempt.status ≠ .active ∨ attempt.expiresAtUnix ≤ completion.consumedAtUnix then .error attemptUnavailable
        else .ok (stores.attempts.insert stateHash (attempt.consumed completion.consumedAtUnix)) := by
      rw [consumeAttempt, hlookup]
      simp only [hnames, Bool.not_true, Bool.false_eq_true, or_false]
    rw [runStages, LoginStage.run, hfind]
    have hguarded : (runStages completion (.consumeAttempt :: stages) { progress with stateHash := some stateHash }
        stores).2 = .ok () ↔ (attempt.status = .active ∧ completion.consumedAtUnix < attempt.expiresAtUnix) ∧
          (runStages completion stages { progress with stateHash := some stateHash }
            { stores with
              attempts := stores.attempts.insert stateHash (attempt.consumed completion.consumedAtUnix) }).2 = .ok () := by
      apply runStages_guarded
      · rintro ⟨hactive, hexpiry⟩
        rw [if_neg (not_or.mpr ⟨not_not.mpr hactive, not_le.mpr hexpiry⟩)] at hconsume
        simp only [LoginStage.run, hconsume]
        rfl
      · intro hfails
        have hrefused : attempt.status ≠ .active ∨ attempt.expiresAtUnix ≤ completion.consumedAtUnix := by
          rw [← not_lt, ← not_and_or]
          exact hfails
        rw [if_pos hrefused] at hconsume
        simp only [LoginStage.run, hconsume]
        exact ⟨_, rfl⟩
    refine hguarded.trans (and_congr ⟨fun h => ⟨stateHash, attempt, hfound, h⟩, ?_⟩ (hrest _ _))
    rintro ⟨otherHash, other, hother, h⟩
    cases hfound.symm.trans hother
    exact h

theorem completeOidcLogin_ok_iff (stores : LoginStores) (completion : OidcLoginCompletionRecord) :
    (completeOidcLogin stores completion).2 = .ok () ↔
      validatePlatformUserRecord (completion.user (stores.users.lookup completion.userId)) = .ok () ∧
        LinksIdentity stores.externalIdentities completion.externalIdentity ∧
          AttemptAvailable stores.attempts completion ∧ RecordsValid completion := by
  rw [completeOidcLogin_eq, runStages_wrote _ (LoginStage.run_recordUser _ _ _), runStages_linkIdentity,
    runStages_attempt runStages_records]

/-- What the write of the user leaves to the later stages. -/
theorem completeOidcLogin_recordUser (stores : LoginStores) (completion : OidcLoginCompletionRecord) :
    (∃ error, validatePlatformUserRecord (completion.user (stores.users.lookup completion.userId)) = .error error ∧
      (completeOidcLogin stores completion).1 = stores) ∨
    validatePlatformUserRecord (completion.user (stores.users.lookup completion.userId)) = .ok () ∧
      (completeOidcLogin stores completion).1.users =
        stores.users.insert completion.userId (completion.user (stores.users.lookup completion.userId)) := by
  rw [completeOidcLogin_eq, runStages, LoginStage.run, recordUser]
  cases hvalid : validatePlatformUserRecord (completion.user (stores.users.lookup completion.userId)) with
  | error error => exact .inl ⟨error, rfl, rfl⟩
  | ok => exact .inr ⟨rfl, runStages_users (by decide)⟩

/-- A user is written under a version that it did not have before. -/
theorem recordedUser_ne (existing : Option PlatformUserRecord) : some (completion.user existing) ≠ existing := by
  cases existing with
  | none => exact fun h => by cases h
  | some old =>
    intro h
    have hversion : old.resourceVersion + 1 = old.resourceVersion := congrArg (·.resourceVersion) (Option.some.inj h)
    omega

end Stages

theorem completeOidcLogin_unchanged_iff (stores : LoginStores) (completion : OidcLoginCompletionRecord) :
    (∀ error, (completeOidcLogin stores completion).2 = .error error →
      SameLoginRecords stores (completeOidcLogin stores completion).1) ↔
    validatePlatformUserRecord (completion.user (stores.users.lookup completion.userId)) ≠ .ok () ∨
      LinksIdentity stores.externalIdentities completion.externalIdentity ∧
        AttemptAvailable stores.attempts completion ∧ RecordsValid completion := by
  rcases completeOidcLogin_recordUser stores completion with ⟨refusal, hrefused, hstores⟩ | ⟨hvalid, husers⟩
  · rw [hstores, hrefused]
    exact ⟨fun _ => .inl fun h => (by cases h), fun _ _ _ => .refl stores⟩
  · have hok := completeOidcLogin_ok_iff stores completion
    constructor
    · intro hunchanged
      refine .inr ?_
      cases hanswer : (completeOidcLogin stores completion).2 with
      | ok => exact (hok.mp hanswer).2
      | error error =>
        have hsame := (hunchanged error hanswer).users completion.userId
        rw [husers, AList.lookup_insert] at hsame
        exact absurd hsame (recordedUser_ne _)
    · rintro (hrefused | haccepted) error herror
      · exact absurd hvalid hrefused
      · cases (hok.mpr ⟨hvalid, haccepted⟩).symm.trans herror

section Examples

def firstCompletion : OidcLoginCompletionRecord :=
  oidcLoginCompletionRecord oneTokenEnv.hashes loginProvider loginAttempt
    ⟨"https://issuer", "subject", ["client"], "nonce", 200, none, false, none⟩ "swp_sess_0123456789abcdef" 10

def secondCompletion : OidcLoginCompletionRecord :=
  oidcLoginCompletionRecord oneTokenEnv.hashes loginProvider loginAttempt
    ⟨"https://issuer", "subject", ["client"], "nonce", 200, none, false, none⟩ "swp_sess_fedcba9876543210" 10

/-- Of two callbacks with the same attempt the later one fails, and writes its user nevertheless. -/
theorem secondCallback_writesUser :
    (completeOidcLogin loginStores firstCompletion).2 = .ok () ∧
      ∃ error, (completeOidcLogin (completeOidcLogin loginStores firstCompletion).1 secondCompletion).2 = .error error ∧
        ¬ SameLoginRecords (completeOidcLogin loginStores firstCompletion).1
          (completeOidcLogin (completeOidcLogin loginStores firstCompletion).1 secondCompletion).1 := by
  refine ⟨by decide +kernel, attemptUnavailable, by decide +kernel, fun hsame => ?_⟩
  have hversion : (completeOidcLogin (completeOidcLogin loginStores firstCompletion).1 secondCompletion).1.users.lookup
      "usr_oidc_subject" ≠ (completeOidcLogin loginStores firstCompletion).1.users.lookup "usr_oidc_subject" := by
    decide +kernel
  exact hversion (hsame.users "usr_oidc_subject")

end Examples

end Starweaver.Platform
