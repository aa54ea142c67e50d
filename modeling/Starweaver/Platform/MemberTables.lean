import Starweaver.Library.Machine
import Starweaver.Library.Naming
import Starweaver.Platform.AccessSteps

namespace Starweaver.Platform

open Library.AssocMap Library.Checks Library.Machine Library.Naming Library.OrderedMap

section Validation

variable {memberId memberStart tenantId organizationId principalId membershipKind : String} {resourceVersion : Int}
  {others parent : Except PlatformMembershipError Unit}

def ValidKind (membershipKind : String) : Prop := membershipKind = "user" ∨ membershipKind = "service_account"

instance (membershipKind : String) : Decidable (ValidKind membershipKind) := inferInstanceAs (Decidable (_ ∨ _))

theorem requireStart_ok {ε : Type} {value start : String} {error : ε} :
    requireStart value start error = .ok () ↔ startsWith value start = true := by
  unfold requireStart
  split <;> simp_all

theorem validateMember_ok :
    validateMember memberId memberStart tenantId organizationId principalId membershipKind resourceVersion others parent =
        .ok () ↔
      startsWith memberId memberStart = true ∧ startsWith tenantId "ten_" = true ∧ startsWith organizationId "org_" = true ∧
        others = .ok () ∧ (startsWith principalId "usr_" = true ∨ startsWith principalId "svc_" = true) ∧ parent = .ok () ∧
          ValidKind membershipKind ∧ 0 < resourceVersion := by
  have hprincipal : ¬ (!startsWith principalId "usr_" && !startsWith principalId "svc_") = true ↔
      startsWith principalId "usr_" = true ∨ startsWith principalId "svc_" = true := by
    cases startsWith principalId "usr_" <;> cases startsWith principalId "svc_" <;> simp
  have hkind : ¬ (membershipKind ≠ "user" ∧ membershipKind ≠ "service_account") ↔ ValidKind membershipKind := by
    rw [not_and_or, not_not, not_not, ValidKind]
  unfold validateMember
  simp only [bind_unit_ok, requireStart_ok, refuses_ok, hprincipal, hkind, not_le, and_true]

end Validation

section Tables

variable {ν μ : Type}

/-- A table with its records under their ids, one for each name, all of them valid. -/
structure SoundTable (key : ν → String) (name : ν → μ) (valid : ν → Prop) (map : AList (fun _ : String => ν)) : Prop where
  keyed : Keyed key map
  unique : UniqueNames (fun _ => true) name map
  valid : ∀ id value, map.lookup id = some value → valid value

variable {key : ν → String} {name : ν → μ} {valid : ν → Prop} {map : AList (fun _ : String => ν)} {id : String} {value : ν}

theorem SoundTable.empty : SoundTable key name valid ∅ :=
  ⟨.empty key, uniqueNames_empty, fun id value h => by cases h⟩

theorem SoundTable.insert (h : SoundTable key name valid map) (hkey : key value = id) (hvalid : valid value)
    (hunique : UniqueNames (fun _ => true) name (map.insert id value)) : SoundTable key name valid (map.insert id value) := by
  refine ⟨h.keyed.insert hkey, hunique, fun other found hfound => ?_⟩
  rcases insert_some hfound with ⟨-, rfl⟩ | ⟨-, hold⟩
  · exact hvalid
  · exact h.valid other found hold

theorem SoundTable.mapped (h : SoundTable key name valid map) {update : ν → ν}
    (hkey : ∀ value, key (update value) = key value) (hname : ∀ value, name (update value) = name value)
    (hvalid : ∀ value, valid value → valid (update value)) : SoundTable key name valid (mapValues update map) := by
  refine ⟨h.keyed.mapValues hkey, h.unique.mapValues hname fun _ => rfl, fun id value hvalue => ?_⟩
  rw [lookup_mapValues] at hvalue
  obtain ⟨old, hold, rfl⟩ := Option.map_eq_some_iff.mp hvalue
  exact hvalid old (h.valid id old hold)

/-- The key of a record is the only one that holds its name. -/
theorem SoundTable.named_iff (h : SoundTable key name valid map) {old : ν} (hold : map.lookup id = some old) :
    ∀ other found, map.lookup other = some found → (name found = name old ↔ other = id) := by
  intro other found hfound
  constructor
  · intro hsame
    exact h.unique other id found old hfound hold rfl rfl hsame
  · rintro rfl
    cases hfound.symm.trans hold
    rfl

/-- Between two states of a table no name gets a second record and none is lost. -/
def OnePerName (name : ν → μ) (before after : AList (fun _ : String => ν)) : Prop :=
  UniqueNames (fun _ => true) name after ∧ NamesKept name before after

/-- A write of a table that keeps one record for each name, loses none, and changes nothing if it fails. -/
def SoundWrite (name : ν → μ) (before after : AList (fun _ : String => ν)) (fails : Prop) : Prop :=
  OnePerName name before after ∧ (fails → ∀ id, after.lookup id = before.lookup id)

theorem SoundTable.unchanged (h : SoundTable key name valid map) (fails : Prop) : SoundWrite name map map fails :=
  ⟨⟨h.unique, .refl name map⟩, fun _ _ => rfl⟩

theorem SoundTable.insert_write (h : SoundTable key name valid map) {fails : Prop} (hkey : key value = id)
    (hvalid : valid value) (hfails : ¬ fails) :
    (SoundWrite name map (map.insert id value) fails ↔
      ∀ other found, map.lookup other = some found → (name found = name value ↔ other = id)) ∧
    (SoundWrite name map (map.insert id value) fails → SoundTable key name valid (map.insert id value)) := by
  refine ⟨?_, fun hwrite => h.insert hkey hvalid hwrite.1.1⟩
  rw [← h.unique.insert_kept_iff]
  exact ⟨And.left, fun hnames => ⟨hnames, fun hfailed => absurd hfailed hfails⟩⟩

/-- A record that replaces one of its name. -/
theorem SoundTable.replace_write (h : SoundTable key name valid map) {fails : Prop} {old : ν}
    (hold : map.lookup id = some old) (hkey : key value = id) (hname : name value = name old) (hvalid : valid value)
    (hfails : ¬ fails) :
    SoundWrite name map (map.insert id value) fails ∧ SoundTable key name valid (map.insert id value) := by
  obtain ⟨hiff, hnext⟩ := h.insert_write hkey hvalid hfails
  have hwrite : SoundWrite name map (map.insert id value) fails := hiff.mpr (hname ▸ h.named_iff hold)
  exact ⟨hwrite, hnext hwrite⟩

theorem SoundTable.mapValues_write (h : SoundTable key name valid map) {update : ν → ν}
    (hkey : ∀ value, key (update value) = key value) (hname : ∀ value, name (update value) = name value)
    (hvalid : ∀ value, valid value → valid (update value)) {fails : Prop} (hfails : ¬ fails) :
    SoundWrite name map (mapValues update map) fails ∧ SoundTable key name valid (mapValues update map) := by
  have hnext := h.mapped hkey hname hvalid
  exact ⟨⟨⟨hnext.unique, namesKept_mapValues hname⟩, fun hfailed => absurd hfailed hfails⟩, hnext⟩

/-- What an upsert does to a table: a record with the name is changed, even if that spoils it, and else a valid new
one is inserted. -/
def UpsertWrite (key : ν → String) (name : ν → μ) (valid : ν → Prop) (rejoined : ν → ν) (new : ν)
    (before after : AList (fun _ : String => ν)) (fails : Prop) : Prop :=
  (∃ record, before.lookup (key record) = some record ∧ name record = name new ∧
    after = before.insert (key record) (rejoined record) ∧ (fails ↔ ¬ valid (rejoined record))) ∨
  (∀ id record, before.lookup id = some record → name record ≠ name new) ∧
    (¬ valid new ∧ after = before ∨ valid new ∧ ¬ fails ∧ after = before.insert (key new) new)

theorem SoundTable.upsert_write (h : SoundTable key name valid map) {after : AList (fun _ : String => ν)} {fails : Prop}
    {rejoined : ν → ν} {new : ν} (hkey : ∀ record, key (rejoined record) = key record)
    (hname : ∀ record, name (rejoined record) = name record)
    (hupsert : UpsertWrite key name valid rejoined new map after fails) :
    (SoundWrite name map after fails ↔
      (∀ id record, map.lookup id = some record → name record = name new → valid (rejoined record)) ∧
        ((∀ id record, map.lookup id = some record → name record ≠ name new) → valid new → map.lookup (key new) = none)) ∧
    (SoundWrite name map after fails → SoundTable key name valid after) := by
  rcases hupsert with ⟨record, hstored, hsame, rfl, hfails⟩ | ⟨hnone, ⟨hinvalid, rfl⟩ | ⟨hvalid, hfails, rfl⟩⟩
  · have honly (id : String) (other : ν) (hother : map.lookup id = some other) (hnamed : name other = name new) :
        other = record := by
      have hid := (h.named_iff hstored id other hother).mp (hnamed.trans hsame.symm)
      subst hid
      exact Option.some.inj (hother.symm.trans hstored)
    have hvalid_iff : SoundWrite name map (map.insert (key record) (rejoined record)) fails ↔ valid (rejoined record) := by
      constructor
      · rintro ⟨-, hunchanged⟩
        by_contra hinvalid
        have hsame := hunchanged (hfails.mpr hinvalid) (key record)
        rw [AList.lookup_insert, hstored, Option.some.injEq] at hsame
        exact hinvalid (hsame.symm ▸ h.valid _ _ hstored)
      · intro hvalid
        exact (h.replace_write hstored (hkey record) (hname record) hvalid fun hfailed => hfails.mp hfailed hvalid).1
    refine ⟨hvalid_iff.trans ⟨fun hvalid => ⟨?_, fun hnone => absurd hsame (hnone _ record hstored)⟩,
      fun hallowed => hallowed.1 _ record hstored hsame⟩, fun hwrite => ?_⟩
    · intro id other hother hnamed
      rwa [honly id other hother hnamed]
    · have hvalid := hvalid_iff.mp hwrite
      exact (h.replace_write hstored (hkey record) (hname record) hvalid fun hfailed => hfails.mp hfailed hvalid).2
  · refine ⟨⟨fun _ => ⟨fun id record hrecord hnamed => absurd hnamed (hnone id record hrecord), fun _ hvalid =>
      absurd hvalid hinvalid⟩, fun _ => h.unchanged fails⟩, fun _ => h⟩
  · obtain ⟨hiff, hnext⟩ := h.insert_write rfl hvalid hfails
    refine ⟨hiff.trans ⟨fun hnames => ⟨fun id record hrecord hnamed => absurd hnamed (hnone id record hrecord),
      fun _ _ => ?_⟩, ?_⟩, hnext⟩
    · cases hstored : map.lookup (key new) with
      | none => rfl
      | some stored => exact absurd ((hnames _ stored hstored).mpr rfl) (hnone _ stored hstored)
    · rintro ⟨-, hfree⟩ id stored hstored
      refine ⟨fun hnamed => absurd hnamed (hnone id stored hstored), ?_⟩
      rintro rfl
      cases (hfree hnone hvalid).symm.trans hstored

section Upserts

variable {ε : Type} {validate : ν → Except ε Unit} {sameMember : ν → Bool} {rejoined : ν → ν} {new : ν}
  {after : AList (fun _ : String => ν)} {result : Except ε ν} {allowedKind : Prop}

/-- What an upsert answers: a record of the member is written changed before it is checked, a new one only after. -/
def UpsertAnswer (key : ν → String) (validate : ν → Except ε Unit) (sameMember : ν → Bool) (rejoined : ν → ν) (new : ν)
    (before after : AList (fun _ : String => ν)) (result : Except ε ν) : Prop :=
  (∃ record, before.lookup (key record) = some record ∧ sameMember record = true ∧
    after = before.insert (key record) (rejoined record) ∧
    result = (validate (rejoined record)).bind fun _ => .ok (rejoined record)) ∨
  (∀ id record, before.lookup id = some record → sameMember record = false) ∧
    ((∃ error, validate new = .error error ∧ after = before) ∨
      validate new = .ok () ∧ after = before.insert (key new) new ∧ result = .ok new)

theorem UpsertAnswer.write (h : UpsertAnswer key validate sameMember rejoined new map after result)
    (hsame : ∀ record, sameMember record = true ↔ name record = name new) :
    UpsertWrite key name (fun record => validate record = .ok ()) rejoined new map after
      (∃ error, result = .error error) := by
  rcases h with ⟨record, hstored, hmember, hafter, rfl⟩ | ⟨hnone, hwritten⟩
  · refine .inl ⟨record, hstored, (hsame record).mp hmember, hafter, ?_⟩
    cases hvalid : validate (rejoined record) with
    | error error => exact ⟨fun _ hok => (by cases hvalid.symm.trans hok), fun _ => ⟨error, rfl⟩⟩
    | ok => exact ⟨fun ⟨error, herror⟩ => (by cases herror), fun hinvalid => absurd hvalid hinvalid⟩
  · refine .inr ⟨fun id record hrecord hnamed => ?_, ?_⟩
    · cases (hnone id record hrecord).symm.trans ((hsame record).mpr hnamed)
    rcases hwritten with ⟨error, hinvalid, hafter⟩ | ⟨hvalid, hafter, rfl⟩
    · exact .inl ⟨fun hok => (by cases hinvalid.symm.trans hok), hafter⟩
    · exact .inr ⟨hvalid, fun ⟨error, herror⟩ => (by cases herror), hafter⟩

/-- An upsert is sound when it may change the record that it finds, and finds the id of a new one unused. -/
theorem SoundTable.upsert_sound (h : SoundTable key name (fun record => validate record = .ok ()) map)
    (hkey : ∀ record, key (rejoined record) = key record) (hname : ∀ record, name (rejoined record) = name record)
    (hsame : ∀ record, sameMember record = true ↔ name record = name new)
    (hkind : ∀ record, validate record = .ok () → (validate (rejoined record) = .ok () ↔ allowedKind))
    (hanswer : UpsertAnswer key validate sameMember rejoined new map after result) :
    (SoundWrite name map after (∃ error, result = .error error) ↔
      ((∃ id stored, map.lookup id = some stored ∧ sameMember stored = true) → allowedKind) ∧
        ((∀ id stored, map.lookup id = some stored → sameMember stored = false) → validate new = .ok () →
          map.lookup (key new) = none)) ∧
    (SoundWrite name map after (∃ error, result = .error error) →
      SoundTable key name (fun record => validate record = .ok ()) after) := by
  obtain ⟨hiff, hnext⟩ := h.upsert_write hkey hname (hanswer.write hsame)
  refine ⟨hiff.trans (and_congr ⟨fun hvalid => ?_, fun hallowed id stored hstored hnamed => ?_⟩
    ⟨fun hfree hnone => hfree fun id stored hstored hnamed => ?_, fun hfree hnone => hfree fun id stored hstored => ?_⟩),
    hnext⟩
  · rintro ⟨id, stored, hstored, hmember⟩
    exact (hkind stored (h.valid id stored hstored)).mp (hvalid id stored hstored ((hsame stored).mp hmember))
  · exact (hkind stored (h.valid id stored hstored)).mpr (hallowed ⟨id, stored, hstored, (hsame stored).mpr hnamed⟩)
  · cases (hnone id stored hstored).symm.trans ((hsame stored).mpr hnamed)
  · rw [← Bool.not_eq_true, hsame stored]
    exact hnone id stored hstored

end Upserts

end Tables

/-- What an organization membership is looked up by. -/
def organizationTuple (record : PlatformOrganizationMembershipRecord) : String × String × String :=
  (record.tenantId, record.organizationId, record.principalId)

def projectTuple (record : PlatformProjectMembershipRecord) : String × String := (record.projectId, record.principalId)

/-- The calls that write the membership tables. -/
inductive MemberAction
  | recordOrganizationMember (record : PlatformOrganizationMembershipRecord)
  | recordProjectMember (record : PlatformProjectMembershipRecord)
  | upsertOrganizationMember (request : PlatformOrganizationMembershipUpsert)
  | upsertProjectMember (request : PlatformProjectMembershipUpsert)
  | updateOrganizationMemberStatus (organizationMemberId : String) (expectedVersion : Int)
      (status : PlatformMembershipStatus)
  | updateProjectMemberStatus (projectMemberId : String) (expectedVersion : Int) (status : PlatformMembershipStatus)
  | cascade (member : PlatformOrganizationMembershipRecord) (status : PlatformMembershipStatus)

section Steps

variable (s : MembershipStore)

def orUnchangedMembers {ε : Type} : Except ε MembershipStore → MembershipStore
  | .ok next => next
  | .error _ => s

def memberStep : MemberAction → MembershipStore
  | .recordOrganizationMember record => orUnchangedMembers s (recordOrganizationMember s record)
  | .recordProjectMember record => orUnchangedMembers s (recordProjectMember s record)
  | .upsertOrganizationMember request => (upsertOrganizationMember s request).1
  | .upsertProjectMember request => (upsertProjectMember s request).1
  | .updateOrganizationMemberStatus organizationMemberId expectedVersion status =>
    orUnchangedMembers s ((updateOrganizationMemberStatus s organizationMemberId expectedVersion status).map Prod.snd)
  | .updateProjectMemberStatus projectMemberId expectedVersion status =>
    orUnchangedMembers s ((updateProjectMemberStatus s projectMemberId expectedVersion status).map Prod.snd)
  | .cascade member status => cascadeProjectMembershipsForOrganizationMember s member status

/-- The call is an upsert that answers with an error. -/
def UpsertFails : MemberAction → Prop
  | .upsertOrganizationMember request => ∃ error, (upsertOrganizationMember s request).2 = .error error
  | .upsertProjectMember request => ∃ error, (upsertProjectMember s request).2 = .error error
  | _ => False

structure SameMembers (s next : MembershipStore) : Prop where
  organizationMembers : ∀ id, next.organizationMembers.lookup id = s.organizationMembers.lookup id
  projectMembers : ∀ id, next.projectMembers.lookup id = s.projectMembers.lookup id

/-- The call leaves one record for each member, loses none, and changes nothing if it is an upsert that fails. -/
structure SoundStep (action : MemberAction) : Prop where
  organizationMembers : OnePerName organizationTuple s.organizationMembers (memberStep s action).organizationMembers
  projectMembers : OnePerName projectTuple s.projectMembers (memberStep s action).projectMembers
  failed : UpsertFails s action → SameMembers s (memberStep s action)

/-- A written record has its own id and its own member, or those of the record that it replaces; a member that is
already there is asked for with a kind, and for a project with a parent id, that a record may have. -/
def AllowedStep : MemberAction → Prop
  | .recordOrganizationMember record => validateOrganizationMember record = .ok () →
    ∀ id stored, s.organizationMembers.lookup id = some stored →
      (organizationTuple stored = organizationTuple record ↔ id = record.organizationMemberId)
  | .recordProjectMember record => validateProjectMember record = .ok () →
    ∀ id stored, s.projectMembers.lookup id = some stored →
      (projectTuple stored = projectTuple record ↔ id = record.projectMemberId)
  | .upsertOrganizationMember request =>
    ((∃ id stored, s.organizationMembers.lookup id = some stored ∧ request.sameMember stored = true) →
      ValidKind request.membershipKind) ∧
    ((∀ id stored, s.organizationMembers.lookup id = some stored → request.sameMember stored = false) →
      validateOrganizationMember request.newRecord = .ok () →
        s.organizationMembers.lookup request.organizationMemberId = none)
  | .upsertProjectMember request =>
    ((∃ id stored, s.projectMembers.lookup id = some stored ∧ request.sameMember stored = true) →
      ValidKind request.membershipKind ∧ startsWith request.organizationMemberId "om_" = true) ∧
    ((∀ id stored, s.projectMembers.lookup id = some stored → request.sameMember stored = false) →
      validateProjectMember request.newRecord = .ok () → s.projectMembers.lookup request.projectMemberId = none)
  | .updateOrganizationMemberStatus _ _ _ | .updateProjectMemberStatus _ _ _ | .cascade _ _ => True

/-- Both tables hold valid records under their ids, one for each member. -/
structure SoundMembers : Prop where
  organizationMembers : SoundTable (·.organizationMemberId) organizationTuple
    (fun record => validateOrganizationMember record = .ok ()) s.organizationMembers
  projectMembers : SoundTable (·.projectMemberId) projectTuple
    (fun record => validateProjectMember record = .ok ()) s.projectMembers

end Steps

section Rejoined

theorem PlatformOrganizationMembershipUpsert.sameMember_iff {request : PlatformOrganizationMembershipUpsert}
    {record : PlatformOrganizationMembershipRecord} :
    request.sameMember record = true ↔ organizationTuple record = organizationTuple request.newRecord := by
  simp only [sameMember, organizationTuple, newRecord, Bool.and_eq_true, beq_iff_eq, Prod.mk.injEq, and_assoc]

theorem PlatformProjectMembershipUpsert.sameMember_iff {request : PlatformProjectMembershipUpsert}
    {record : PlatformProjectMembershipRecord} :
    request.sameMember record = true ↔ projectTuple record = projectTuple request.newRecord := by
  simp only [sameMember, projectTuple, newRecord, Bool.and_eq_true, beq_iff_eq, Prod.mk.injEq]

theorem PlatformOrganizationMembershipUpsert.rejoined_member (request : PlatformOrganizationMembershipUpsert)
    (record : PlatformOrganizationMembershipRecord) :
    (request.rejoined record).organizationMemberId = record.organizationMemberId ∧
      organizationTuple (request.rejoined record) = organizationTuple record := by
  obtain ⟨hid, htenant, horganization, hprincipal⟩ := request.rejoined_same record
  refine ⟨hid, ?_⟩
  unfold organizationTuple
  rw [htenant, horganization, hprincipal]

theorem PlatformProjectMembershipUpsert.rejoined_member (request : PlatformProjectMembershipUpsert)
    (record : PlatformProjectMembershipRecord) :
    (request.rejoined record).projectMemberId = record.projectMemberId ∧
      projectTuple (request.rejoined record) = projectTuple record := ⟨rfl, rfl⟩

/-- Of a valid record an upsert can spoil the kind only. -/
theorem PlatformOrganizationMembershipUpsert.rejoined_valid (request : PlatformOrganizationMembershipUpsert)
    {record : PlatformOrganizationMembershipRecord} (hvalid : validateOrganizationMember record = .ok ()) :
    validateOrganizationMember (request.rejoined record) = .ok () ↔ ValidKind request.membershipKind := by
  unfold rejoined
  split
  · unfold validateOrganizationMember at *
    obtain ⟨hid, htenant, horganization, hothers, hprincipal, hparent, -, hversion⟩ := validateMember_ok.mp hvalid
    rw [validateMember_ok]
    constructor
    · exact fun h => h.2.2.2.2.2.2.1
    · exact fun hkind => ⟨hid, htenant, horganization, hothers, hprincipal, hparent, hkind, Int.lt_add_one_of_le hversion.le⟩
  · rename_i hsame
    have hkind : record.membershipKind = request.membershipKind := by
      by_contra hne
      exact hsame (.inr hne)
    rw [← hkind]
    exact ⟨fun _ => (validateMember_ok.mp hvalid).2.2.2.2.2.2.1, fun _ => hvalid⟩

theorem PlatformProjectMembershipUpsert.rejoined_valid (request : PlatformProjectMembershipUpsert)
    {record : PlatformProjectMembershipRecord} (hvalid : validateProjectMember record = .ok ()) :
    validateProjectMember (request.rejoined record) = .ok () ↔
      ValidKind request.membershipKind ∧ startsWith request.organizationMemberId "om_" = true := by
  unfold validateProjectMember at *
  obtain ⟨hid, htenant, horganization, hothers, hprincipal, hparent, -, hversion⟩ := validateMember_ok.mp hvalid
  rw [validateMember_ok]
  have hrejoined : 0 < (request.rejoined record).resourceVersion := by
    unfold rejoined
    simp only
    split
    · exact Int.lt_add_one_of_le hversion.le
    · exact hversion
  constructor
  · exact fun h => ⟨h.2.2.2.2.2.2.1, requireStart_ok.mp h.2.2.2.2.2.1⟩
  · rintro ⟨hkind, hstart⟩
    exact ⟨hid, htenant, horganization, hothers, hprincipal, requireStart_ok.mpr hstart, hkind, hrejoined⟩

theorem validOrganizationMember_status {record : PlatformOrganizationMembershipRecord}
    (hvalid : validateOrganizationMember record = .ok ()) (status : PlatformMembershipStatus) :
    validateOrganizationMember { record with status, resourceVersion := record.resourceVersion + 1 } = .ok () := by
  unfold validateOrganizationMember at *
  obtain ⟨hid, htenant, horganization, hothers, hprincipal, hparent, hkind, hversion⟩ := validateMember_ok.mp hvalid
  exact validateMember_ok.mpr
    ⟨hid, htenant, horganization, hothers, hprincipal, hparent, hkind, Int.lt_add_one_of_le hversion.le⟩

theorem validProjectMember_status {record : PlatformProjectMembershipRecord}
    (hvalid : validateProjectMember record = .ok ()) (status : PlatformMembershipStatus) :
    validateProjectMember { record with status, resourceVersion := record.resourceVersion + 1 } = .ok () := by
  unfold validateProjectMember at *
  obtain ⟨hid, htenant, horganization, hothers, hprincipal, hparent, hkind, hversion⟩ := validateMember_ok.mp hvalid
  exact validateMember_ok.mpr
    ⟨hid, htenant, horganization, hothers, hprincipal, hparent, hkind, Int.lt_add_one_of_le hversion.le⟩

end Rejoined

section Actions

variable {s : MembershipStore} {action : MemberAction} {allowed : Prop}

/-- A call that leaves the project table is judged by what it does to the organization table. -/
theorem SoundMembers.organizationWrite (h : SoundMembers s) {after : Index PlatformOrganizationMembershipRecord}
    (hstep : memberStep s action = { s with organizationMembers := after })
    (hwrite : (SoundWrite organizationTuple s.organizationMembers after (UpsertFails s action) ↔ allowed) ∧
      (SoundWrite organizationTuple s.organizationMembers after (UpsertFails s action) →
        SoundTable (·.organizationMemberId) organizationTuple
          (fun record => validateOrganizationMember record = .ok ()) after)) :
    (SoundStep s action ↔ allowed) ∧ (SoundStep s action → SoundMembers (memberStep s action)) := by
  have hiff : SoundStep s action ↔ SoundWrite organizationTuple s.organizationMembers after (UpsertFails s action) := by
    constructor
    · rintro ⟨hnames, -, hfailed⟩
      rw [hstep] at hnames hfailed
      exact ⟨hnames, fun hfails => (hfailed hfails).organizationMembers⟩
    · rintro ⟨hnames, hfailed⟩
      refine ⟨?_, ?_, fun hfails => ?_⟩
      · rwa [hstep]
      · rw [hstep]
        exact (h.projectMembers.unchanged False).1
      · rw [hstep]
        exact ⟨hfailed hfails, fun _ => rfl⟩
  refine ⟨hiff.trans hwrite.1, fun hsound => ?_⟩
  rw [hstep]
  exact ⟨hwrite.2 (hiff.mp hsound), h.projectMembers⟩

theorem SoundMembers.projectWrite (h : SoundMembers s) {after : Index PlatformProjectMembershipRecord}
    (hstep : memberStep s action = { s with projectMembers := after })
    (hwrite : (SoundWrite projectTuple s.projectMembers after (UpsertFails s action) ↔ allowed) ∧
      (SoundWrite projectTuple s.projectMembers after (UpsertFails s action) →
        SoundTable (·.projectMemberId) projectTuple (fun record => validateProjectMember record = .ok ()) after)) :
    (SoundStep s action ↔ allowed) ∧ (SoundStep s action → SoundMembers (memberStep s action)) := by
  have hiff : SoundStep s action ↔ SoundWrite projectTuple s.projectMembers after (UpsertFails s action) := by
    constructor
    · rintro ⟨-, hnames, hfailed⟩
      rw [hstep] at hnames hfailed
      exact ⟨hnames, fun hfails => (hfailed hfails).projectMembers⟩
    · rintro ⟨hnames, hfailed⟩
      refine ⟨?_, ?_, fun hfails => ?_⟩
      · rw [hstep]
        exact (h.organizationMembers.unchanged False).1
      · rwa [hstep]
      · rw [hstep]
        exact ⟨fun _ => rfl, hfailed hfails⟩
  refine ⟨hiff.trans hwrite.1, fun hsound => ?_⟩
  rw [hstep]
  exact ⟨h.organizationMembers, hwrite.2 (hiff.mp hsound)⟩

theorem SoundMembers.unchanged (h : SoundMembers s) (hstep : memberStep s action = s) :
    SoundStep s action ∧ SoundMembers (memberStep s action) := by
  have hsound : SoundStep s action := by
    refine ⟨?_, ?_, fun _ => ?_⟩
    · rw [hstep]
      exact (h.organizationMembers.unchanged False).1
    · rw [hstep]
      exact (h.projectMembers.unchanged False).1
    · rw [hstep]
      exact ⟨fun _ => rfl, fun _ => rfl⟩
  exact ⟨hsound, by rwa [hstep]⟩

theorem recordOrganizationMember_step (h : SoundMembers s) (record : PlatformOrganizationMembershipRecord) :
    (SoundStep s (.recordOrganizationMember record) ↔ AllowedStep s (.recordOrganizationMember record)) ∧
      (SoundStep s (.recordOrganizationMember record) → SoundMembers (memberStep s (.recordOrganizationMember record))) := by
  cases hvalid : validateOrganizationMember record with
  | error error =>
    have hstep : memberStep s (.recordOrganizationMember record) = s := by
      rw [memberStep, recordOrganizationMember, hvalid]
      rfl
    obtain ⟨hsound, hnext⟩ := h.unchanged hstep
    exact ⟨⟨fun _ hok => (by cases hvalid.symm.trans hok), fun _ => hsound⟩, fun _ => hnext⟩
  | ok =>
    have hstep : memberStep s (.recordOrganizationMember record) =
        { s with organizationMembers := s.organizationMembers.insert record.organizationMemberId record } := by
      rw [memberStep, recordOrganizationMember, hvalid]
      rfl
    obtain ⟨hiff, hnext⟩ := h.organizationWrite hstep (h.organizationMembers.insert_write rfl hvalid id)
    exact ⟨hiff.trans ⟨fun hnames _ => hnames, fun hallowed => hallowed hvalid⟩, hnext⟩

theorem recordProjectMember_step (h : SoundMembers s) (record : PlatformProjectMembershipRecord) :
    (SoundStep s (.recordProjectMember record) ↔ AllowedStep s (.recordProjectMember record)) ∧
      (SoundStep s (.recordProjectMember record) → SoundMembers (memberStep s (.recordProjectMember record))) := by
  cases hvalid : validateProjectMember record with
  | error error =>
    have hstep : memberStep s (.recordProjectMember record) = s := by
      rw [memberStep, recordProjectMember, hvalid]
      rfl
    obtain ⟨hsound, hnext⟩ := h.unchanged hstep
    exact ⟨⟨fun _ hok => (by cases hvalid.symm.trans hok), fun _ => hsound⟩, fun _ => hnext⟩
  | ok =>
    have hstep : memberStep s (.recordProjectMember record) =
        { s with projectMembers := s.projectMembers.insert record.projectMemberId record } := by
      rw [memberStep, recordProjectMember, hvalid]
      rfl
    obtain ⟨hiff, hnext⟩ := h.projectWrite hstep (h.projectMembers.insert_write rfl hvalid id)
    exact ⟨hiff.trans ⟨fun hnames _ => hnames, fun hallowed => hallowed hvalid⟩, hnext⟩

theorem upsertOrganizationMember_answer (h : SoundMembers s) (request : PlatformOrganizationMembershipUpsert) :
    UpsertAnswer (·.organizationMemberId) validateOrganizationMember request.sameMember request.rejoined
      request.newRecord s.organizationMembers (upsertOrganizationMember s request).1.organizationMembers
      (upsertOrganizationMember s request).2 := by
  rcases upsertOrganizationMember_eq h.organizationMembers.keyed request with
    ⟨record, hstored, hsame, hanswer⟩ | ⟨hnone, ⟨error, hinvalid, hanswer⟩ | ⟨hvalid, hanswer⟩⟩
  · exact .inl ⟨record, hstored, hsame, by rw [hanswer], by rw [hanswer]; rfl⟩
  · exact .inr ⟨hnone, .inl ⟨error, hinvalid, by rw [hanswer]⟩⟩
  · exact .inr ⟨hnone, .inr ⟨hvalid, by rw [hanswer]; rfl, by rw [hanswer]⟩⟩

theorem upsertProjectMember_answer (h : SoundMembers s) (request : PlatformProjectMembershipUpsert) :
    UpsertAnswer (·.projectMemberId) validateProjectMember request.sameMember request.rejoined request.newRecord
      s.projectMembers (upsertProjectMember s request).1.projectMembers (upsertProjectMember s request).2 := by
  rcases upsertProjectMember_eq h.projectMembers.keyed request with
    ⟨record, hstored, hsame, hanswer⟩ | ⟨hnone, ⟨error, hinvalid, hanswer⟩ | ⟨hvalid, hanswer⟩⟩
  · exact .inl ⟨record, hstored, hsame, by rw [hanswer], by rw [hanswer]; rfl⟩
  · exact .inr ⟨hnone, .inl ⟨error, hinvalid, by rw [hanswer]⟩⟩
  · exact .inr ⟨hnone, .inr ⟨hvalid, by rw [hanswer]; rfl, by rw [hanswer]⟩⟩

theorem upsertOrganizationMember_step (h : SoundMembers s) (request : PlatformOrganizationMembershipUpsert) :
    (SoundStep s (.upsertOrganizationMember request) ↔ AllowedStep s (.upsertOrganizationMember request)) ∧
      (SoundStep s (.upsertOrganizationMember request) →
        SoundMembers (memberStep s (.upsertOrganizationMember request))) := by
  have hstep : memberStep s (.upsertOrganizationMember request) =
      { s with organizationMembers := (upsertOrganizationMember s request).1.organizationMembers } := by
    rw [← upsertOrganizationMember_projectMembers s request]
    rfl
  exact h.organizationWrite hstep (h.organizationMembers.upsert_sound (fun record => (request.rejoined_member record).1)
    (fun record => (request.rejoined_member record).2) (fun _ => request.sameMember_iff)
    (fun _ hvalid => request.rejoined_valid hvalid) (upsertOrganizationMember_answer h request))

theorem upsertProjectMember_step (h : SoundMembers s) (request : PlatformProjectMembershipUpsert) :
    (SoundStep s (.upsertProjectMember request) ↔ AllowedStep s (.upsertProjectMember request)) ∧
      (SoundStep s (.upsertProjectMember request) →
        SoundMembers (memberStep s (.upsertProjectMember request))) := by
  have hstep : memberStep s (.upsertProjectMember request) =
      { s with projectMembers := (upsertProjectMember s request).1.projectMembers } := by
    rw [← upsertProjectMember_organizationMembers s request]
    rfl
  exact h.projectWrite hstep (h.projectMembers.upsert_sound (fun record => (request.rejoined_member record).1)
    (fun record => (request.rejoined_member record).2) (fun _ => request.sameMember_iff)
    (fun _ hvalid => request.rejoined_valid hvalid) (upsertProjectMember_answer h request))

theorem updateOrganizationMemberStatus_step (h : SoundMembers s) (organizationMemberId : String) (expectedVersion : Int)
    (status : PlatformMembershipStatus) :
    SoundStep s (.updateOrganizationMemberStatus organizationMemberId expectedVersion status) ∧
      SoundMembers (memberStep s (.updateOrganizationMemberStatus organizationMemberId expectedVersion status)) := by
  cases hanswer : updateOrganizationMemberStatus s organizationMemberId expectedVersion status with
  | error error =>
    apply h.unchanged
    rw [memberStep, hanswer]
    rfl
  | ok answer =>
    obtain ⟨updated, changed⟩ := answer
    obtain ⟨record, hrecord, -, hupdated, rfl⟩ := updateOrganizationMemberStatus_ok hanswer
    have hid : updated.organizationMemberId = organizationMemberId := by
      have hkey := h.organizationMembers.keyed _ _ hrecord
      rw [hupdated]
      exact hkey
    have htuple : organizationTuple updated = organizationTuple record := by rw [hupdated]; rfl
    have hvalid := validOrganizationMember_status (h.organizationMembers.valid _ _ hrecord) status
    rw [← hupdated] at hvalid
    have hwrite := h.organizationMembers.replace_write hrecord hid htuple hvalid id
    have hstep : memberStep s (.updateOrganizationMemberStatus organizationMemberId expectedVersion status) =
        { s with organizationMembers := s.organizationMembers.insert organizationMemberId updated } := by
      rw [memberStep, hanswer]
      rfl
    obtain ⟨hiff, hnext⟩ := h.organizationWrite hstep ⟨iff_true_intro hwrite.1, fun _ => hwrite.2⟩
    exact ⟨hiff.mpr trivial, hnext (hiff.mpr trivial)⟩

theorem updateProjectMemberStatus_step (h : SoundMembers s) (projectMemberId : String) (expectedVersion : Int)
    (status : PlatformMembershipStatus) :
    SoundStep s (.updateProjectMemberStatus projectMemberId expectedVersion status) ∧
      SoundMembers (memberStep s (.updateProjectMemberStatus projectMemberId expectedVersion status)) := by
  cases hanswer : updateProjectMemberStatus s projectMemberId expectedVersion status with
  | error error =>
    apply h.unchanged
    rw [memberStep, hanswer]
    rfl
  | ok answer =>
    obtain ⟨updated, changed⟩ := answer
    obtain ⟨record, hrecord, -, hupdated, rfl⟩ := updateProjectMemberStatus_ok hanswer
    have hid : updated.projectMemberId = projectMemberId := by
      have hkey := h.projectMembers.keyed _ _ hrecord
      rw [hupdated]
      exact hkey
    have htuple : projectTuple updated = projectTuple record := by rw [hupdated]; rfl
    have hvalid := validProjectMember_status (h.projectMembers.valid _ _ hrecord) status
    rw [← hupdated] at hvalid
    have hwrite := h.projectMembers.replace_write hrecord hid htuple hvalid id
    have hstep : memberStep s (.updateProjectMemberStatus projectMemberId expectedVersion status) =
        { s with projectMembers := s.projectMembers.insert projectMemberId updated } := by
      rw [memberStep, hanswer]
      rfl
    obtain ⟨hiff, hnext⟩ := h.projectWrite hstep ⟨iff_true_intro hwrite.1, fun _ => hwrite.2⟩
    exact ⟨hiff.mpr trivial, hnext (hiff.mpr trivial)⟩

theorem cascade_step (h : SoundMembers s) (member : PlatformOrganizationMembershipRecord)
    (status : PlatformMembershipStatus) :
    SoundStep s (.cascade member status) ∧ SoundMembers (memberStep s (.cascade member status)) := by
  have hwrite : SoundWrite projectTuple s.projectMembers
      (cascadeProjectMembershipsForOrganizationMember s member status).projectMembers
        (UpsertFails s (.cascade member status)) ∧
      SoundTable (·.projectMemberId) projectTuple (fun record => validateProjectMember record = .ok ())
        (cascadeProjectMembershipsForOrganizationMember s member status).projectMembers := by
    refine h.projectMembers.mapValues_write (fun record => ?_) (fun record => ?_) (fun record hvalid => ?_) id
    · split <;> rfl
    · split <;> rfl
    · split
      · exact validProjectMember_status hvalid status
      · exact hvalid
  have hstep : memberStep s (.cascade member status) = { s with
      projectMembers := (cascadeProjectMembershipsForOrganizationMember s member status).projectMembers } := rfl
  obtain ⟨hiff, hnext⟩ := h.projectWrite hstep ⟨iff_true_intro hwrite.1, fun _ => hwrite.2⟩
  exact ⟨hiff.mpr trivial, hnext (hiff.mpr trivial)⟩

theorem memberStep_sound (h : SoundMembers s) (action : MemberAction) :
    (SoundStep s action ↔ AllowedStep s action) ∧ (SoundStep s action → SoundMembers (memberStep s action)) := by
  cases action with
  | recordOrganizationMember record => exact recordOrganizationMember_step h record
  | recordProjectMember record => exact recordProjectMember_step h record
  | upsertOrganizationMember request => exact upsertOrganizationMember_step h request
  | upsertProjectMember request => exact upsertProjectMember_step h request
  | updateOrganizationMemberStatus organizationMemberId expectedVersion status =>
    obtain ⟨hsound, hnext⟩ := updateOrganizationMemberStatus_step h organizationMemberId expectedVersion status
    exact ⟨⟨fun _ => trivial, fun _ => hsound⟩, fun _ => hnext⟩
  | updateProjectMemberStatus projectMemberId expectedVersion status =>
    obtain ⟨hsound, hnext⟩ := updateProjectMemberStatus_step h projectMemberId expectedVersion status
    exact ⟨⟨fun _ => trivial, fun _ => hsound⟩, fun _ => hnext⟩
  | cascade member status =>
    obtain ⟨hsound, hnext⟩ := cascade_step h member status
    exact ⟨⟨fun _ => trivial, fun _ => hsound⟩, fun _ => hnext⟩

end Actions

theorem memberTables_sound_iff (actions : List MemberAction) :
    Meets (fun s action => some (memberStep s action)) SoundStep ⟨∅, ∅⟩ actions ↔
      Meets (fun s action => some (memberStep s action)) AllowedStep ⟨∅, ∅⟩ actions := by
  have hstep (s : MembershipStore) (action : MemberAction) (next : MembershipStore) (h : SoundMembers s)
      (hallowed : AllowedStep s action) (hnext : some (memberStep s action) = some next) : SoundMembers next := by
    cases hnext
    exact (memberStep_sound h action).2 ((memberStep_sound h action).1.mpr hallowed)
  exact meets_iff_of_invariant hstep (fun s action h => (memberStep_sound h action).1) ⟨.empty, .empty⟩ actions

section Examples

def memberRecord (organizationMemberId : String) : PlatformOrganizationMembershipRecord :=
  ⟨organizationMemberId, "ten_a", "org_a", "usr_a", "user", .active, 1⟩

def memberUpsert (principalId membershipKind : String) : PlatformOrganizationMembershipUpsert :=
  ⟨"om_a", "ten_a", "org_a", principalId, membershipKind⟩

def recordedTwice : List MemberAction :=
  [.recordOrganizationMember (memberRecord "om_a"), .recordOrganizationMember (memberRecord "om_b")]

def idOfAnother : List MemberAction :=
  [.upsertOrganizationMember (memberUpsert "usr_a" "user"), .upsertOrganizationMember (memberUpsert "usr_b" "user")]

def unknownKind : List MemberAction :=
  [.upsertOrganizationMember (memberUpsert "usr_a" "user"), .upsertOrganizationMember (memberUpsert "usr_a" "robot")]

/-- A member recorded under a second id, the id of one member used for another, and an upsert that fails on a kind
that it has written. -/
theorem memberTables_unsound :
    ¬ Meets (fun s action => some (memberStep s action)) SoundStep ⟨∅, ∅⟩ recordedTwice ∧
      ¬ Meets (fun s action => some (memberStep s action)) SoundStep ⟨∅, ∅⟩ idOfAnother ∧
        ¬ Meets (fun s action => some (memberStep s action)) SoundStep ⟨∅, ∅⟩ unknownKind := by
  refine ⟨fun hmeets => ?_, fun hmeets => ?_, fun hmeets => ?_⟩
  · have hsound := (hmeets.2 _ rfl).1
    have hsame : "om_a" = "om_b" := hsound.organizationMembers.1 "om_a" "om_b" (memberRecord "om_a") (memberRecord "om_b")
      (by decide +kernel) (by decide +kernel) rfl rfl rfl
    exact absurd hsame (by decide)
  · have hsound := (hmeets.2 _ rfl).1
    obtain ⟨id, found, hfound, htuple⟩ := hsound.organizationMembers.2 "om_a" (memberRecord "om_a") (by decide +kernel)
    have hlost : (memberStep (memberStep ⟨∅, ∅⟩ (.upsertOrganizationMember (memberUpsert "usr_a" "user")))
        (.upsertOrganizationMember (memberUpsert "usr_b" "user"))).organizationMembers.entries.all
          (fun entry => organizationTuple entry.2 != organizationTuple (memberRecord "om_a")) = true := by decide +kernel
    exact absurd htuple (by simpa using List.all_eq_true.mp hlost ⟨id, found⟩ (AList.mem_lookup_iff.mp hfound))
  · have hsound := (hmeets.2 _ rfl).1
    have hfailed := hsound.failed ⟨.invalidMembershipKind, by decide +kernel⟩
    have hchanged : (memberStep (memberStep ⟨∅, ∅⟩ (.upsertOrganizationMember (memberUpsert "usr_a" "user")))
        (.upsertOrganizationMember (memberUpsert "usr_a" "robot"))).organizationMembers.lookup "om_a" ≠
      (memberStep ⟨∅, ∅⟩ (.upsertOrganizationMember (memberUpsert "usr_a" "user"))).organizationMembers.lookup "om_a" := by
      decide +kernel
    exact hchanged (hfailed.organizationMembers "om_a")

end Examples

end Starweaver.Platform
