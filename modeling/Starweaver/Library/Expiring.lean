import Mathlib.Data.List.AList

namespace Starweaver.Library.Expiring

variable {ι ρ π : Type}

/-- String keys with a payload each, gone at its deadline; times count nanoseconds. -/
abbrev Keyspace (π : Type) := AList (fun _ : String => π × Int)

def get (space : Keyspace π) (key : String) (now : Int) : Option π :=
  ((space.lookup key).filter fun entry => decide (now < entry.2)).map Prod.fst

def ttlSeconds (expiresAt now : Int) : Int := (expiresAt - now).tdiv 1000000000

def setExpiring (space : Keyspace π) (key : String) (payload : π) (seconds now : Int) : Keyspace π :=
  space.insert key (payload, now + seconds * 1000000000)

/-- Records that carry their ids and their expiry, with the key and the payload they are stored under. -/
structure Codec (ι ρ π : Type) where
  key : ι → String
  ids : ρ → ι
  expiresAt : ρ → Int
  encode : ρ → π
  decode : π → Option ρ
  decode_encode : ∀ record, decode (encode record) = some record

namespace Codec

variable (codec : Codec ι ρ π)

def live (now : Int) (record : ρ) : Bool := decide (now < codec.expiresAt record)

def read (space : Keyspace π) (ids : ι) (now : Int) : Option ρ := (get space (codec.key ids) now).bind codec.decode

/-- A record with less than a second to live is not written. -/
def write (space : Keyspace π) (record : ρ) (now : Int) : Keyspace π :=
  let seconds := ttlSeconds (codec.expiresAt record) now
  if 0 < seconds then setExpiring space (codec.key (codec.ids record)) (codec.encode record) seconds now else space

end Codec

theorem get_later {space : Keyspace π} {key : String} {now later : Int} {payload : π} (hle : now ≤ later)
    (h : get space key later = some payload) : get space key now = some payload := by
  unfold get at *
  obtain ⟨entry, hentry, rfl⟩ := Option.map_eq_some_iff.mp h
  obtain ⟨hlookup, hlive⟩ := Option.filter_eq_some_iff.mp hentry
  have hnow : now < entry.2 := Int.lt_of_le_of_lt hle (of_decide_eq_true hlive)
  rw [hlookup, Option.filter_some, if_pos (decide_eq_true hnow), Option.map_some]

theorem get_set_self (space : Keyspace π) (key : String) (payload : π) (seconds now later : Int) :
    get (setExpiring space key payload seconds now) key later =
      if later < now + seconds * 1000000000 then some payload else none := by
  unfold get setExpiring
  rw [AList.lookup_insert, Option.filter_some]
  simp only [decide_eq_true_eq]
  split <;> rfl

theorem get_set_ne (space : Keyspace π) {key other : String} (payload : π) (seconds now later : Int)
    (h : other ≠ key) : get (setExpiring space key payload seconds now) other later = get space other later := by
  unfold get setExpiring
  rw [AList.lookup_insert_ne h]

/-- Whole seconds bring a record to its expiry, and not to a time before. -/
theorem deadline_eq {expiresAt now : Int} (h : (1000000000 : Int) ∣ expiresAt - now) :
    now + ttlSeconds expiresAt now * 1000000000 = expiresAt := by
  unfold ttlSeconds
  rw [Int.tdiv_mul_cancel h]
  omega

section Mirror

variable [DecidableEq ι] {codec : Codec ι ρ π} {memory : AList (fun _ : ι => ρ)} {space : Keyspace π}
  {clock now : Int} {record : ρ}

/-- From the clock on, the live record of an id in the map is the one that the keyspace holds of that id. -/
def Mirrors (codec : Codec ι ρ π) (memory : AList (fun _ : ι => ρ)) (space : Keyspace π) (clock : Int) : Prop :=
  ∀ ids now, clock ≤ now → (memory.lookup ids).filter (codec.live now) =
    (codec.read space ids now).filter fun record => codec.live now record && decide (codec.ids record = ids)

/-- Whatever live record the key of the ids leads to has these ids. -/
def ReadsOwn (codec : Codec ι ρ π) (space : Keyspace π) (ids : ι) (now : Int) : Prop :=
  ∀ record, codec.read space ids now = some record → codec.live now record = true → codec.ids record = ids

/-- The record lives for whole seconds and its key holds no live record of other ids; or it is past its expiry and
its key holds no live record of its ids. -/
def WritesOwn (codec : Codec ι ρ π) (space : Keyspace π) (record : ρ) (now : Int) : Prop :=
  (now < codec.expiresAt record ∧ (1000000000 : Int) ∣ codec.expiresAt record - now ∧
      ReadsOwn codec space (codec.ids record) now) ∨
    (codec.expiresAt record ≤ now ∧ ∀ old, codec.read space (codec.ids record) now = some old →
      codec.live now old = true → codec.ids old ≠ codec.ids record)

theorem Mirrors.empty (codec : Codec ι ρ π) (clock : Int) : Mirrors codec ∅ ∅ clock := by
  intro ids now _
  rfl

theorem Mirrors.later (h : Mirrors codec memory space clock) (hle : clock ≤ now) :
    Mirrors codec memory space now := by
  intro ids later hlater
  exact h ids later (Int.le_trans hle hlater)

theorem Mirrors.frame (h : Mirrors codec memory space clock) {other : Keyspace π}
    (hget : ∀ ids later, get other (codec.key ids) later = get space (codec.key ids) later) :
    Mirrors codec memory other clock := by
  intro ids later hlater
  rw [h ids later hlater]
  unfold Codec.read
  rw [hget]

/-- A reader of the map and a reader of the keyspace see one record. -/
theorem Mirrors.read (h : Mirrors codec memory space clock) (hle : clock ≤ now) {ids : ι}
    (hown : ReadsOwn codec space ids now) :
    (memory.lookup ids).filter (codec.live now) = (codec.read space ids now).filter (codec.live now) := by
  rw [h ids now hle]
  cases hread : codec.read space ids now with
  | none => rfl
  | some found =>
    rw [Option.filter_some, Option.filter_some]
    by_cases hlive : codec.live now found = true
    · have hids := hown found hread hlive
      simp [hlive, hids]
    · simp [hlive]

omit [DecidableEq ι] in
theorem live_of_later {later : Int} (hle : now ≤ later) (h : codec.live later record = true) :
    codec.live now record = true := by
  unfold Codec.live at *
  exact decide_eq_true (Int.lt_of_le_of_lt hle (of_decide_eq_true h))

omit [DecidableEq ι] in
theorem read_of_later {later : Int} (hle : now ≤ later) {ids : ι} (h : codec.read space ids later = some record) :
    codec.read space ids now = some record := by
  obtain ⟨payload, hget, hdecode⟩ := Option.bind_eq_some_iff.mp h
  exact Option.bind_eq_some_iff.mpr ⟨payload, get_later hle hget, hdecode⟩

theorem Mirrors.write (h : Mirrors codec memory space clock) (hle : clock ≤ now)
    (hwrites : WritesOwn codec space record now) :
    Mirrors codec (memory.insert (codec.ids record) record) (codec.write space record now) now := by
  intro ids later hlater
  have hsame := h ids later (Int.le_trans hle hlater)
  have hkept (hids : ids ≠ codec.ids record) :
      (memory.insert (codec.ids record) record).lookup ids = memory.lookup ids := AList.lookup_insert_ne hids
  rcases hwrites with ⟨hlives, hwhole, hown⟩ | ⟨hdead, hnone⟩
  · have hdeadline := deadline_eq hwhole
    have hpositive : 0 < ttlSeconds (codec.expiresAt record) now := by omega
    unfold Codec.write
    rw [if_pos hpositive]
    by_cases hkey : codec.key ids = codec.key (codec.ids record)
    · unfold Codec.read
      rw [hkey, get_set_self, hdeadline]
      by_cases hids : ids = codec.ids record
      · subst hids
        rw [AList.lookup_insert, Option.filter_some]
        by_cases hlive : later < codec.expiresAt record
        · simp [hlive, Codec.live, codec.decode_encode, Option.filter_some]
        · simp [hlive, Codec.live]
      · rw [hkept hids, hsame]
        have hgone : (codec.read space ids later).filter (fun record =>
            codec.live later record && decide (codec.ids record = ids)) = none := by
          rw [Option.filter_eq_none_iff]
          intro old hread hlive
          rw [Bool.and_eq_true, decide_eq_true_eq] at hlive
          have hnow := read_of_later hlater hread
          unfold Codec.read at hnow
          rw [hkey] at hnow
          exact hids (hlive.2.symm.trans (hown old hnow (live_of_later hlater hlive.1)))
        rw [hgone]
        split
        · simp [codec.decode_encode, Option.filter_some, Ne.symm hids]
        · rfl
    · have hids : ids ≠ codec.ids record := fun heq => hkey (congrArg codec.key heq)
      unfold Codec.read at hsame ⊢
      rw [hkept hids, get_set_ne _ _ _ _ _ hkey, hsame]
  · have hpositive : ¬ 0 < ttlSeconds (codec.expiresAt record) now := by
      have hnonneg : 0 ≤ (now - codec.expiresAt record).tdiv 1000000000 := Int.tdiv_nonneg (by omega) (by decide)
      have hneg : (codec.expiresAt record - now).tdiv 1000000000 =
          -(now - codec.expiresAt record).tdiv 1000000000 := by
        rw [← Int.neg_tdiv, Int.neg_sub]
      unfold ttlSeconds
      omega
    unfold Codec.write
    rw [if_neg hpositive]
    by_cases hids : ids = codec.ids record
    · subst hids
      have hlive : codec.live later record = false := by
        simp only [Codec.live, decide_eq_false_iff_not]
        omega
      have hgone : (codec.read space (codec.ids record) later).filter (fun old =>
          codec.live later old && decide (codec.ids old = codec.ids record)) = none := by
        rw [Option.filter_eq_none_iff]
        intro old hread hold
        rw [Bool.and_eq_true, decide_eq_true_eq] at hold
        exact hnone old (read_of_later hlater hread) (live_of_later hlater hold.1) hold.2
      rw [AList.lookup_insert, Option.filter_some, hgone, hlive]
      rfl
    · rw [hkept hids, hsame]

omit [DecidableEq ι] in
theorem get_write_ne (codec : Codec ι ρ π) (space : Keyspace π) (record : ρ) (now later : Int) {key : String}
    (h : key ≠ codec.key (codec.ids record)) : get (codec.write space record now) key later = get space key later := by
  unfold Codec.write
  dsimp only
  split
  · exact get_set_ne space _ _ _ _ h
  · rfl

/-- A record of another kind is written under another key. -/
theorem Mirrors.other {κ σ : Type} (h : Mirrors codec memory space clock) (hle : clock ≤ now) (written : Codec κ σ π)
    (record : σ) (hkeys : ∀ ids, codec.key ids ≠ written.key (written.ids record)) :
    Mirrors codec memory (written.write space record now) now :=
  (h.later hle).frame fun ids later => get_write_ne written space record now later (hkeys ids)

theorem filter_live {live fresh : ρ → Bool} (h : ∀ record, fresh record = true → live record = true)
    (found : Option ρ) : found.filter fresh = (found.filter live).filter fresh := by
  cases found with
  | none => rfl
  | some record =>
    cases hfresh : fresh record with
    | true => simp [Option.filter_some, hfresh, h record hfresh]
    | false => cases hlive : live record <;> simp [Option.filter_some, hfresh, hlive]

/-- A test that only live records pass finds one record on both sides. -/
theorem Mirrors.fresh (h : Mirrors codec memory space clock) (hle : clock ≤ now) {ids : ι}
    (hown : ReadsOwn codec space ids now) {fresh : ρ → Bool}
    (hfresh : ∀ record, fresh record = true → codec.live now record = true) :
    (memory.lookup ids).filter fresh = (codec.read space ids now).filter fresh := by
  rw [filter_live hfresh, h.read hle hown, ← filter_live hfresh]

end Mirror

end Starweaver.Library.Expiring
