import Starweaver.Library.PathTemplate
import Starweaver.Platform.Routes

namespace Starweaver.Platform

open Library Library.PathTemplate

section Segments

variable {before name after segment : List Char} {params params' : Index String}

theorem pathSegments_eq (path : List Char) : pathSegments path = parts '/' path := by
  rw [← parts_dropWhile '/' path, ← parts_rdropWhile '/' (path.dropWhile (· == '/'))]
  rfl

theorem byteLength_append (left right : List Char) : byteLength (left ++ right) = byteLength left + byteLength right := by
  simp [byteLength]

theorem idxOf?_append_cons {c : Char} {text : List Char} (h : c ∉ text) (rest : List Char) :
    (text ++ c :: rest).idxOf? c = some text.length := by
  induction text with
  | nil => simp [List.idxOf?_cons]
  | cons a text ih =>
    rw [List.mem_cons, not_or] at h
    rw [List.cons_append, List.idxOf?_cons, if_neg (by simpa using Ne.symm h.1), ih h.2]
    rfl

theorem matchSegment_literal {text : List Char} (h : '{' ∉ text) :
    matchSegment text segment params = some params' ↔ segment = text ∧ params' = params := by
  unfold matchSegment
  rw [List.idxOf?_eq_none_iff.mpr h]
  dsimp only
  split
  · rename_i heq
    simp [heq, eq_comm]
  · rename_i hne
    simp [Ne.symm hne]

/-- The two offsets cut a segment of a pattern into the name and what stands before and after it. -/
theorem matchSegment_cut (hbefore : '{' ∉ before) (hclosing : '}' ∉ name) :
    matchSegment (before ++ '{' :: name ++ '}' :: after) segment params =
      if name = [] ∨ ¬before <+: segment ∨ ¬after <:+ segment ∨
          byteLength segment < byteLength before + byteLength after then none
      else if (segment.take (segment.length - after.length)).drop before.length = [] then none
      else some (params.insert (String.ofList name)
        (String.ofList ((segment.take (segment.length - after.length)).drop before.length))) := by
  have hopen : before ++ '{' :: name ++ '}' :: after = before ++ '{' :: (name ++ '}' :: after) := by simp
  have hrest : (before ++ '{' :: (name ++ '}' :: after)).drop (before.length + 1) = name ++ '}' :: after := by simp
  have hclose : (before ++ '{' :: (name ++ '}' :: after)).take (name.length + before.length + 1) =
      before ++ '{' :: name := by
    rw [show name.length + before.length + 1 = before.length + (name.length + 1) by omega, List.take_length_add_append]
    simp
  have hlast : (before ++ '{' :: (name ++ '}' :: after)).drop (name.length + before.length + 1 + 1) = after := by
    rw [show name.length + before.length + 1 + 1 = before.length + (name.length + 1 + 1) by omega,
      List.drop_length_add_append]
    simp
  have hnamed : (before ++ '{' :: name).drop (before.length + 1) = name := by simp
  unfold matchSegment
  rw [hopen, idxOf?_append_cons hbefore]
  simp only [hrest, idxOf?_append_cons hclosing, Option.bind_eq_bind, Option.bind_some, hclose, hlast, List.take_left,
    hnamed]

theorem matchSegment_hole (hname : name ≠ []) (hbefore : '{' ∉ before) (hclosing : '}' ∉ name) :
    matchSegment (before ++ '{' :: name ++ '}' :: after) segment params = some params' ↔
      ∃ value, value ≠ [] ∧ segment = before ++ value ++ after ∧
        params' = params.insert (String.ofList name) (String.ofList value) := by
  rw [matchSegment_cut hbefore hclosing]
  constructor
  · intro h
    split at h
    · cases h
    rename_i hfits
    simp only [not_or, not_not, not_lt] at hfits
    obtain ⟨-, ⟨rest, rfl⟩, ⟨front, hends⟩, -⟩ := hfits
    split at h
    · cases h
    rename_i hvalue
    rw [← hends, List.length_append, Nat.add_sub_cancel, List.take_left] at hvalue h
    have hlong : before.length < front.length := by
      by_contra hshort
      exact hvalue (List.drop_eq_nil_of_le (not_lt.mp hshort))
    have hbegins : before <+: front := List.prefix_of_prefix_length_le ⟨rest, rfl⟩ ⟨after, hends⟩ hlong.le
    obtain ⟨value, rfl⟩ := hbegins
    rw [List.drop_left] at hvalue h
    exact ⟨value, hvalue, hends.symm, (Option.some.inj h).symm⟩
  · rintro ⟨value, hvalue, rfl, rfl⟩
    have hbytes : byteLength before + byteLength after ≤ byteLength (before ++ value ++ after) := by
      simp only [byteLength_append]
      omega
    have hfits : ¬(name = [] ∨ ¬before <+: before ++ value ++ after ∨ ¬after <:+ before ++ value ++ after ∨
        byteLength (before ++ value ++ after) < byteLength before + byteLength after) := by
      simp only [not_or, not_not, not_lt]
      exact ⟨hname, ⟨value ++ after, (List.append_assoc _ _ _).symm⟩, ⟨before ++ value, rfl⟩, hbytes⟩
    rw [if_neg hfits, List.length_append, Nat.add_sub_cancel, List.take_left, List.drop_left, if_neg hvalue]

end Segments

section Templates

variable {piece : Piece Char} {pieces : List (Piece Char)} {segment : List Char} {segments : List (List Char)}
  {params params' : Index String} {values : List Char → List Char}

def paramValue (params : Index String) (name : List Char) : List Char :=
  ((params.lookup (String.ofList name)).getD "").toList

/-- What a segment adds to the parameters: nothing, or a nonempty value under the name of the hole. -/
theorem matchSegment_text (h : piece.WellFormed '/' '{' '}') :
    matchSegment (piece.text '{' '}') segment params = some params' ↔
      match piece with
      | .literal text => segment = text ∧ params' = params
      | .hole before name after => ∃ value, value ≠ [] ∧ segment = before ++ value ++ after ∧
          params' = params.insert (String.ofList name) (String.ofList value) := by
  cases piece with
  | literal text => exact matchSegment_literal h.2.2
  | hole before name after =>
    obtain ⟨hname, -, -, -, hbefore, -, hclosing⟩ := h
    exact matchSegment_hole hname hbefore hclosing

theorem matchSegment_filled (h : piece.WellFormed '/' '{' '}') (hvalues : ∀ name ∈ piece.names, values name ≠ [])
    (params : Index String) : ∃ params', matchSegment (piece.text '{' '}') (piece.filled values) params = some params' := by
  cases piece with
  | literal text => exact ⟨params, (matchSegment_text h).mpr ⟨rfl, rfl⟩⟩
  | hole before name after =>
    exact ⟨_, (matchSegment_text h).mpr ⟨values name, hvalues name (List.mem_singleton.mpr rfl), rfl, rfl⟩⟩

def matchSegments (pieces : List (Piece Char)) (segments : List (List Char)) (params : Index String) :
    Option (Index String) :=
  ((pieces.map (Piece.text '{' '}')).zip segments).foldlM (fun params pair => matchSegment pair.1 pair.2 params) params

theorem matchSegments_cons : matchSegments (piece :: pieces) (segment :: segments) params =
    (matchSegment (piece.text '{' '}') segment params).bind (matchSegments pieces segments) := rfl

theorem matchSegments_filled (hwell : ∀ piece ∈ pieces, piece.WellFormed '/' '{' '}')
    (hvalues : ∀ name ∈ pieces.flatMap Piece.names, values name ≠ []) :
    (matchSegments pieces (pieces.map (Piece.filled values)) params).isSome = true := by
  induction pieces generalizing params with
  | nil => rfl
  | cons piece pieces ih =>
    rw [List.flatMap_cons] at hvalues
    obtain ⟨next, hnext⟩ := matchSegment_filled (hwell piece List.mem_cons_self)
      (fun name hname => hvalues name (List.mem_append_left _ hname)) params
    rw [List.map_cons, matchSegments_cons, hnext, Option.bind_some]
    exact ih (fun other hother => hwell other (List.mem_cons_of_mem _ hother))
      fun name hname => hvalues name (List.mem_append_right _ hname)

theorem matchSegment_sound (hwell : piece.WellFormed '/' '{' '}') (hsegment : '/' ∉ segment)
    (h : matchSegment (piece.text '{' '}') segment params = some params') :
    segment = piece.filled (paramValue params') ∧
      (∀ name ∈ piece.names, paramValue params' name ≠ [] ∧ '/' ∉ paramValue params' name) ∧
      ∀ name ∉ piece.names, params'.lookup (String.ofList name) = params.lookup (String.ofList name) := by
  have hadded := (matchSegment_text hwell).mp h
  cases piece with
  | literal text =>
    obtain ⟨rfl, rfl⟩ := hadded
    exact ⟨rfl, fun name hname => absurd hname List.not_mem_nil, fun name hname => rfl⟩
  | hole before name after =>
    obtain ⟨value, hvalue, rfl, rfl⟩ := hadded
    have hread : paramValue (params.insert (String.ofList name) (String.ofList value)) name = value := by
      rw [paramValue, AList.lookup_insert, Option.getD_some, String.toList_ofList]
    refine ⟨by rw [Piece.filled, hread], ?_, ?_⟩
    · intro other hother
      rw [List.mem_singleton.mp hother, hread]
      exact ⟨hvalue, fun hslash => hsegment (by simp [hslash])⟩
    · intro other hother
      have hne : String.ofList other ≠ String.ofList name := by
        intro heq
        exact hother (List.mem_singleton.mpr (String.ofList_injective heq))
      exact AList.lookup_insert_ne hne

/-- A name comes once, so that no later segment writes over its value. -/
theorem matchSegments_sound (hwell : ∀ piece ∈ pieces, piece.WellFormed '/' '{' '}')
    (hnames : (pieces.flatMap Piece.names).Nodup) (hlength : pieces.length = segments.length)
    (hsegments : ∀ segment ∈ segments, '/' ∉ segment) (h : matchSegments pieces segments params = some params') :
    segments = pieces.map (Piece.filled (paramValue params')) ∧
      (∀ name ∈ pieces.flatMap Piece.names, paramValue params' name ≠ [] ∧ '/' ∉ paramValue params' name) ∧
      ∀ name ∉ pieces.flatMap Piece.names, params'.lookup (String.ofList name) = params.lookup (String.ofList name) := by
  induction pieces generalizing segments params with
  | nil =>
    rw [List.length_eq_zero_iff.mp hlength.symm] at h ⊢
    obtain rfl : params = params' := Option.some.inj h
    exact ⟨rfl, fun name hname => absurd hname List.not_mem_nil, fun name hname => rfl⟩
  | cons piece pieces ih =>
    obtain ⟨segment, segments, rfl⟩ := List.exists_cons_of_length_eq_add_one hlength.symm
    rw [matchSegments_cons, Option.bind_eq_some_iff] at h
    obtain ⟨next, hnext, h⟩ := h
    rw [List.flatMap_cons] at hnames ⊢
    obtain ⟨-, hrestNames, hapart⟩ := List.nodup_append.mp hnames
    obtain ⟨hsegment, hvalue, hother⟩ := matchSegment_sound (hwell piece List.mem_cons_self)
      (hsegments segment List.mem_cons_self) hnext
    obtain ⟨hrest, hvalues, hothers⟩ := ih (fun other hmem => hwell other (List.mem_cons_of_mem _ hmem)) hrestNames
      (Nat.succ.inj hlength) (fun other hmem => hsegments other (List.mem_cons_of_mem _ hmem)) h
    have hkept (name : List Char) (hname : name ∈ piece.names) : paramValue next name = paramValue params' name := by
      rw [paramValue, paramValue, hothers name fun hrestName => hapart name hname name hrestName rfl]
    refine ⟨?_, ?_, ?_⟩
    · rw [List.map_cons, ← hrest, ← Piece.filled_inj.mpr hkept, ← hsegment]
    · intro name hname
      rcases List.mem_append.mp hname with hname | hname
      · rw [← hkept name hname]
        exact hvalue name hname
      · exact hvalues name hname
    · intro name hname
      rw [List.mem_append, not_or] at hname
      rw [hothers name hname.2, hother name hname.1]

end Templates

section Patterns

def paramNames (pattern : String) : List String := (holes '{' '}' pattern.toList).map String.ofList

def instantiate (pattern : String) (values : String → String) : String :=
  String.ofList (filled '{' '}' (fun name => (values (String.ofList name)).toList) pattern.toList)

def withoutEmptySegments (path : String) : String := String.ofList (unsplit '/' (parts '/' path.toList))

/-- The path, without empty segments, is the pattern with a nonempty string without slashes for each name. -/
def InstanceOf (pattern : String) (values : String → String) (path : String) : Prop :=
  (∀ name ∈ paramNames pattern, values name ≠ "" ∧ '/' ∉ (values name).toList) ∧
    withoutEmptySegments path = instantiate pattern values

/-- What a pattern of the table must be: at most one hole in a segment, no name twice. -/
structure ReadsAs (pattern : List Char) (pieces : List (Piece Char)) : Prop where
  text : pattern = unsplit '/' (pieces.map (Piece.text '{' '}'))
  wellFormed : ∀ piece ∈ pieces, piece.WellFormed '/' '{' '}'
  names : (pieces.flatMap Piece.names).Nodup

variable {pattern path : String} {pieces : List (Piece Char)} {params : Index String} {values : String → String}

theorem matchPathPattern_eq (h : ReadsAs pattern.toList pieces) : matchPathPattern pattern path =
    if pieces.length = (parts '/' path.toList).length then matchSegments pieces (parts '/' path.toList) ∅ else none := by
  have hpattern : parts '/' pattern.toList = pieces.map (Piece.text '{' '}') := by
    rw [h.text]
    apply parts_unsplit
    intro text htext
    obtain ⟨piece, hpiece, rfl⟩ := List.mem_map.mp htext
    exact Piece.text_isPart (by decide) (by decide) (h.wellFormed piece hpiece)
  unfold matchPathPattern
  rw [pathSegments_eq, pathSegments_eq, hpattern]
  dsimp only
  rw [List.length_map, ite_not]
  rfl

theorem instanceOf_iff (h : ReadsAs pattern.toList pieces) : InstanceOf pattern values path ↔
    (∀ name ∈ pieces.flatMap Piece.names,
      (values (String.ofList name)).toList ≠ [] ∧ '/' ∉ (values (String.ofList name)).toList) ∧
    parts '/' path.toList = pieces.map (Piece.filled fun name => (values (String.ofList name)).toList) := by
  have hslash : ('/' : Char) ≠ '{' := by decide
  have hempty (value : String) : value ≠ "" ↔ value.toList ≠ [] := by simp
  unfold InstanceOf paramNames withoutEmptySegments instantiate
  rw [h.text, Piece.holes_unsplit hslash h.wellFormed, Piece.filled_unsplit hslash h.wellFormed, String.ofList_inj]
  simp only [List.forall_mem_map, hempty]
  apply and_congr_right
  intro hvalues
  apply unsplit_parts_iff
  intro text htext
  obtain ⟨piece, hpiece, rfl⟩ := List.mem_map.mp htext
  have hfits : piece.Fits '/' (piece.filled fun name => (values (String.ofList name)).toList) :=
    Piece.fits_filled fun name hname => hvalues name (List.mem_flatMap.mpr ⟨piece, hpiece, hname⟩)
  exact hfits.isPart (h.wellFormed piece hpiece)

theorem mem_paramNames (h : ReadsAs pattern.toList pieces) (name : List Char) :
    String.ofList name ∈ paramNames pattern ↔ name ∈ pieces.flatMap Piece.names := by
  rw [paramNames, h.text, Piece.holes_unsplit (by decide) h.wellFormed]
  exact List.mem_map_of_injective fun left right heq => String.ofList_injective heq

theorem matchPathPattern_sound (h : ReadsAs pattern.toList pieces) (hmatch : matchPathPattern pattern path = some params) :
    InstanceOf pattern (fun name => (params.lookup name).getD "") path ∧
      ∀ name ∉ paramNames pattern, params.lookup name = none := by
  rw [matchPathPattern_eq h] at hmatch
  split at hmatch
  · rename_i hlength
    obtain ⟨hparts, hvalues, hothers⟩ := matchSegments_sound h.wellFormed h.names hlength
      (fun segment hsegment => (mem_parts '/' hsegment).2) hmatch
    refine ⟨(instanceOf_iff h).mpr ⟨hvalues, hparts⟩, fun name hname => ?_⟩
    rw [← String.ofList_toList (s := name), mem_paramNames h] at hname
    have hlookup := hothers name.toList hname
    rw [String.ofList_toList] at hlookup
    rw [hlookup]
    exact AList.lookup_empty name
  · cases hmatch

theorem matchPathPattern_complete (h : ReadsAs pattern.toList pieces) (hinstance : InstanceOf pattern values path) :
    ∃ params, matchPathPattern pattern path = some params ∧
      ∀ name ∈ paramNames pattern, params.lookup name = some (values name) := by
  obtain ⟨hvalues, hparts⟩ := (instanceOf_iff h).mp hinstance
  have hsome : (matchPathPattern pattern path).isSome = true := by
    rw [matchPathPattern_eq h, hparts, List.length_map, if_pos rfl]
    exact matchSegments_filled h.wellFormed fun name hname => (hvalues name hname).1
  obtain ⟨params, hparams⟩ := Option.isSome_iff_exists.mp hsome
  refine ⟨params, hparams, fun name hname => ?_⟩
  obtain ⟨hread, hreadParts⟩ := (instanceOf_iff h).mp (matchPathPattern_sound h hparams).1
  rw [← String.ofList_toList (s := name), mem_paramNames h] at hname
  have hsame := Piece.map_filled_inj.mp (hreadParts.symm.trans hparts) name.toList hname
  have hnonempty := (hread name.toList hname).1
  rw [String.ofList_toList] at hsame hnonempty
  have hvalue : (params.lookup name).getD "" = values name := String.toList_injective hsame
  cases hlookup : params.lookup name with
  | none =>
    rw [hlookup] at hnonempty
    exact absurd rfl hnonempty
  | some value =>
    rw [hlookup, Option.getD_some] at hvalue
    rw [hvalue]

/-- The parts of an instance are instances of the pieces, one by one. -/
theorem InstanceOf.fits (h : ReadsAs pattern.toList pieces) (hinstance : InstanceOf pattern values path) :
    List.Forall₂ (Piece.Fits '/') (parts '/' path.toList) pieces := by
  obtain ⟨hvalues, hparts⟩ := (instanceOf_iff h).mp hinstance
  rw [hparts, List.forall₂_map_left_iff, List.forall₂_same]
  intro piece hpiece
  exact Piece.fits_filled fun name hname => hvalues name (List.mem_flatMap.mpr ⟨piece, hpiece, hname⟩)

end Patterns

section Table

def templatePieces (pattern : List Char) : List (Piece Char) := (parts '/' pattern).map (Piece.ofText '{' '}')

instance (pattern : List Char) (pieces : List (Piece Char)) : Decidable (ReadsAs pattern pieces) :=
  decidable_of_iff (pattern = unsplit '/' (pieces.map (Piece.text '{' '}')) ∧
    (∀ piece ∈ pieces, piece.WellFormed '/' '{' '}') ∧ (pieces.flatMap Piece.names).Nodup)
    ⟨fun h => ⟨h.1, h.2.1, h.2.2⟩, fun h => ⟨h.text, h.wellFormed, h.names⟩⟩

/-- Every pattern is read as a template; two routes with one method are apart in some segment. -/
def SoundRoutes (routes : List (HttpMethod × List Char)) : Prop :=
  (∀ route ∈ routes, ReadsAs route.2 (templatePieces route.2)) ∧
    routes.Pairwise fun left right =>
      left.1 ≠ right.1 ∨ templatesApart (templatePieces left.2) (templatePieces right.2) = true

instance (routes : List (HttpMethod × List Char)) : Decidable (SoundRoutes routes) := by
  unfold SoundRoutes
  infer_instance

theorem foundationRoutes_sound :
    SoundRoutes (foundationRoutes.map fun route => (route.method, route.pathPattern.toList)) := by
  dsimp only [foundationRoutes, platformRoutes, RouteMetadata.new, RouteMetadata.withAccess]
  simp only [-String.reduceToList, List.map_cons, List.map_nil]
  -- The letters of each pattern are read off its literal, so that the kernel decodes no string.
  repeat rw [String.toList_ofList]
  decide +kernel

variable {method path : String} {route right : RouteMetadata}

theorem readsAs_of_mem (h : route ∈ foundationRoutes) :
    ReadsAs route.pathPattern.toList (templatePieces route.pathPattern.toList) :=
  foundationRoutes_sound.1 _ (List.mem_map_of_mem h)

def Matches (method path : String) (route : RouteMetadata) : Prop :=
  platformMethod method = some route.method ∧ (matchPathPattern route.pathPattern path).isSome = true

instance (method path : String) (route : RouteMetadata) : Decidable (Matches method path route) := by
  unfold Matches
  infer_instance

theorem not_both_match (hleft : route ∈ foundationRoutes) (hright : right ∈ foundationRoutes)
    (hapart : route.method ≠ right.method ∨
      templatesApart (templatePieces route.pathPattern.toList) (templatePieces right.pathPattern.toList) = true) :
    ¬(Matches method path route ∧ Matches method path right) := by
  rintro ⟨⟨hmethod, hmatch⟩, ⟨hmethod', hmatch'⟩⟩
  rcases hapart with hne | hapart
  · exact hne (Option.some.inj (hmethod.symm.trans hmethod'))
  · obtain ⟨params, hparams⟩ := Option.isSome_iff_exists.mp hmatch
    obtain ⟨params', hparams'⟩ := Option.isSome_iff_exists.mp hmatch'
    have hfits := (matchPathPattern_sound (readsAs_of_mem hleft) hparams).1.fits (readsAs_of_mem hleft)
    have hfits' := (matchPathPattern_sound (readsAs_of_mem hright) hparams').1.fits (readsAs_of_mem hright)
    exact templatesApart_sound hapart hfits hfits'

theorem matches_pairwise (method path : String) :
    foundationRoutes.Pairwise fun left right => ¬(Matches method path left ∧ Matches method path right) := by
  have hapart := List.pairwise_map.mp foundationRoutes_sound.2
  exact hapart.imp_of_mem fun hleft hright h => not_both_match hleft hright h

theorem matches_length_le_one (method path : String) :
    (foundationRoutes.filter fun route => Matches method path route).length ≤ 1 := by
  have hpairwise := (matches_pairwise method path).filter fun route => decide (Matches method path route)
  have hall (route : RouteMetadata) (hroute : route ∈ foundationRoutes.filter fun route => Matches method path route) :
      Matches method path route := of_decide_eq_true (List.mem_filter.mp hroute).2
  match hmatched : foundationRoutes.filter fun route => Matches method path route with
  | [] => exact Nat.zero_le 1
  | [_] => exact le_rfl
  | left :: right :: rest =>
    rw [hmatched] at hpairwise hall
    exact absurd ⟨hall left List.mem_cons_self, hall right (List.mem_cons_of_mem _ List.mem_cons_self)⟩
      (List.rel_of_pairwise_cons hpairwise List.mem_cons_self)

theorem matches_unique (hleft : route ∈ foundationRoutes) (hright : right ∈ foundationRoutes)
    (hmatches : Matches method path route) (hmatches' : Matches method path right) : route = right := by
  have hsymm : Std.Symm fun left right => ¬(Matches method path left ∧ Matches method path right) :=
    ⟨fun left right h hboth => h hboth.symm⟩
  by_contra hne
  exact (matches_pairwise method path).forall hleft hright hne ⟨hmatches, hmatches'⟩

/-- A search that one element at most answers finds the answer of that element. -/
theorem findSome?_unique {α β : Type} {f : α → Option β} {list : List α}
    (hunique : ∀ a ∈ list, ∀ b ∈ list, (f a).isSome = true → (f b).isSome = true → a = b) (answer : β) :
    list.findSome? f = some answer ↔ ∃ a ∈ list, f a = some answer := by
  constructor
  · exact List.exists_of_findSome?_eq_some
  · rintro ⟨a, ha, hanswer⟩
    have hsome : (list.findSome? f).isSome = true :=
      List.findSome?_isSome_iff.mpr ⟨a, ha, Option.isSome_of_eq_some hanswer⟩
    obtain ⟨other, hother⟩ := Option.isSome_iff_exists.mp hsome
    obtain ⟨b, hb, hanswer'⟩ := List.exists_of_findSome?_eq_some hother
    obtain rfl := hunique a ha b hb (Option.isSome_of_eq_some hanswer) (Option.isSome_of_eq_some hanswer')
    rw [hother, ← hanswer', hanswer]

/-- In any order of the table the answer is the one route that matches, with its parameters. -/
theorem matchRouteIn_iff {routes : List RouteMetadata} (hperm : routes.Perm foundationRoutes) (matched : MatchedRoute) :
    matchRouteIn routes method path = some matched ↔ matched.route ∈ foundationRoutes ∧
      platformMethod method = some matched.route.method ∧
        matchPathPattern matched.route.pathPattern path = some matched.params := by
  unfold matchRouteIn
  cases hmethod : platformMethod method with
  | none => simp
  | some platformMethod =>
    have hmatches {route : RouteMetadata} (hroute : route ∈ routes.filter (·.method == platformMethod))
        (hanswer : ((matchPathPattern route.pathPattern path).map (MatchedRoute.mk route)).isSome = true) :
        route ∈ foundationRoutes ∧ Matches method path route := by
      obtain ⟨hmem, hsame⟩ := List.mem_filter.mp hroute
      rw [Option.isSome_map] at hanswer
      exact ⟨hperm.mem_iff.mp hmem, by rw [hmethod, eq_of_beq hsame], hanswer⟩
    refine (findSome?_unique (fun left hleft right hright hsome hsome' => ?_) matched).trans ⟨?_, ?_⟩
    · obtain ⟨hmem, hmatch⟩ := hmatches hleft hsome
      obtain ⟨hmem', hmatch'⟩ := hmatches hright hsome'
      exact matches_unique hmem hmem' hmatch hmatch'
    · rintro ⟨route, hroute, hanswer⟩
      obtain ⟨params, hparams, rfl⟩ := Option.map_eq_some_iff.mp hanswer
      obtain ⟨hmem, hsame⟩ := List.mem_filter.mp hroute
      exact ⟨hperm.mem_iff.mp hmem, congrArg some (eq_of_beq hsame).symm, hparams⟩
    · rintro ⟨hroute, hsame, hparams⟩
      refine ⟨matched.route, List.mem_filter.mpr ⟨hperm.mem_iff.mpr hroute, ?_⟩, Option.map_eq_some_iff.mpr ⟨_, hparams, rfl⟩⟩
      exact beq_iff_eq.mpr (Option.some.inj hsame).symm

theorem matchRoute_iff (matched : MatchedRoute) :
    matchRoute method path = some matched ↔ matched.route ∈ foundationRoutes ∧
      platformMethod method = some matched.route.method ∧
        matchPathPattern matched.route.pathPattern path = some matched.params := by
  rw [matchRoute]
  exact matchRouteIn_iff (List.Perm.refl foundationRoutes) matched

theorem matchRouteIn_perm {routes : List RouteMetadata} (hperm : routes.Perm foundationRoutes) (method path : String) :
    matchRouteIn routes method path = matchRoute method path :=
  Option.ext fun matched => (matchRouteIn_iff hperm matched).trans (matchRoute_iff matched).symm

theorem foundationRoutes_matchExactly :
    (∀ route ∈ foundationRoutes, ∀ path,
      ((matchPathPattern route.pathPattern path).isSome = true ↔
        ∃ values, InstanceOf route.pathPattern values path) ∧
      ∀ params, matchPathPattern route.pathPattern path = some params →
        (∀ values, InstanceOf route.pathPattern values path →
          ∀ name, params.lookup name = if name ∈ paramNames route.pathPattern then some (values name) else none) ∧
        withoutEmptySegments path = instantiate route.pathPattern fun name => (params.lookup name).getD "") ∧
    (∀ method path, (foundationRoutes.filter fun route => Matches method path route).length ≤ 1) ∧
    (∀ method path route params, matchRoute method path = some ⟨route, params⟩ ↔
      route ∈ foundationRoutes ∧ platformMethod method = some route.method ∧
        matchPathPattern route.pathPattern path = some params) ∧
    ∀ routes, routes.Perm foundationRoutes →
      ∀ method path, matchRouteIn routes method path = matchRoute method path := by
  refine ⟨fun route hroute path => ⟨⟨?_, ?_⟩, ?_⟩, matches_length_le_one,
    fun method path route params => matchRoute_iff ⟨route, params⟩, fun routes => matchRouteIn_perm⟩
  · intro hmatch
    obtain ⟨params, hparams⟩ := Option.isSome_iff_exists.mp hmatch
    exact ⟨_, (matchPathPattern_sound (readsAs_of_mem hroute) hparams).1⟩
  · rintro ⟨values, hinstance⟩
    obtain ⟨params, hparams, -⟩ := matchPathPattern_complete (readsAs_of_mem hroute) hinstance
    exact Option.isSome_of_eq_some hparams
  · intro params hparams
    obtain ⟨hinstance, hothers⟩ := matchPathPattern_sound (readsAs_of_mem hroute) hparams
    refine ⟨fun values hvalues name => ?_, hinstance.2⟩
    obtain ⟨params', hparams', hread⟩ := matchPathPattern_complete (readsAs_of_mem hroute) hvalues
    obtain rfl : params' = params := Option.some.inj (hparams'.symm.trans hparams)
    split
    · rename_i hname
      exact hread name hname
    · rename_i hname
      exact hothers name hname

theorem runCancel_matched :
    (∃ params, matchPathPattern "/v1/runs/{run_id}:cancel" "/v1//runs/run_test:cancel/" = some params ∧
      params.lookup "run_id" = some "run_test" ∧
      matchRoute "POST" "/v1//runs/run_test:cancel/" =
        some ⟨.new .post "/v1/runs/{run_id}:cancel" .runCancel (some "run_id") ["run_id"], params⟩) ∧
    matchRouteIn foundationRoutes.reverse "POST" "/v1/runs/run_test:cancel" =
      matchRoute "POST" "/v1/runs/run_test:cancel" := by
  have hroute : RouteMetadata.new .post "/v1/runs/{run_id}:cancel" .runCancel (some "run_id") ["run_id"] ∈
      foundationRoutes := by simp [foundationRoutes, platformRoutes]
  have hinstance : InstanceOf "/v1/runs/{run_id}:cancel" (fun _ => "run_test") "/v1//runs/run_test:cancel/" := by
    constructor <;> decide +kernel
  have hname : "run_id" ∈ paramNames "/v1/runs/{run_id}:cancel" := by decide +kernel
  obtain ⟨hmatches, -, hroutes, horder⟩ := foundationRoutes_matchExactly
  obtain ⟨hsome, hread⟩ := hmatches _ hroute "/v1//runs/run_test:cancel/"
  obtain ⟨params, hparams⟩ := Option.isSome_iff_exists.mp (hsome.mpr ⟨_, hinstance⟩)
  have hlookup := (hread params hparams).1 _ hinstance "run_id"
  have hfound := (hroutes "POST" "/v1//runs/run_test:cancel/" _ params).mpr ⟨hroute, rfl, hparams⟩
  exact ⟨⟨params, hparams, hlookup.trans (if_pos hname), hfound⟩, horder _ (List.reverse_perm _) _ _⟩

end Table

end Starweaver.Platform
