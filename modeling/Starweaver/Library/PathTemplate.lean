import Mathlib.Data.List.DropRight
import Mathlib.Data.List.Forall2
import Mathlib.Data.List.Infix

namespace Starweaver.Library.PathTemplate

variable {α : Type} [DecidableEq α]

section Parts

variable (sep : α)

/-- The parts between the separators, without the empty ones. -/
def parts (text : List α) : List (List α) := (text.splitOn sep).filter fun part => !part.isEmpty

/-- The text that puts one separator before each part. -/
def unsplit (parts : List (List α)) : List α := parts.flatMap (sep :: ·)

theorem parts_append (left right : List α) : parts sep (left ++ sep :: right) = parts sep left ++ parts sep right := by
  unfold parts
  rw [List.splitOn_append_cons_self, List.filter_append]

@[simp] theorem parts_nil : parts sep ([] : List α) = [] := by simp [parts]

theorem parts_of_sepFree {part : List α} (hpart : part ≠ []) (hsep : sep ∉ part) : parts sep part = [part] := by
  unfold parts
  rw [List.splitOn_eq_singleton hsep, List.filter_cons_of_pos (by simpa using hpart), List.filter_nil]

theorem parts_dropWhile (text : List α) : parts sep (text.dropWhile (· == sep)) = parts sep text := by
  induction text with
  | nil => rfl
  | cons a text ih =>
    by_cases ha : a = sep
    · subst ha
      rw [List.dropWhile_cons_of_pos (by simp), ih]
      exact (parts_append a [] text).symm
    · rw [List.dropWhile_cons_of_neg (by simpa using ha)]

theorem parts_rdropWhile (text : List α) : parts sep (text.rdropWhile (· == sep)) = parts sep text := by
  induction text using List.reverseRecOn with
  | nil => rw [List.rdropWhile_nil]
  | append_singleton text a ih =>
    by_cases ha : a = sep
    · subst ha
      rw [List.rdropWhile_concat_pos _ _ _ (by simp), ih, parts_append a text [], parts_nil, List.append_nil]
    · rw [List.rdropWhile_concat_neg _ _ _ (by simpa using ha)]

theorem sep_notMem_splitOn {text part : List α} (h : part ∈ text.splitOn sep) : sep ∉ part := by
  induction text generalizing part with
  | nil =>
    rw [List.splitOn_nil, List.mem_singleton] at h
    simp [h]
  | cons a text ih =>
    rw [List.splitOn_cons_eq_if_modifyHead] at h
    split at h
    · rcases List.mem_cons.mp h with rfl | hrest
      · exact List.not_mem_nil
      · exact ih hrest
    · rename_i ha
      obtain ⟨first, rest, hsplit⟩ := List.exists_cons_of_ne_nil (List.splitOn_ne_nil sep text)
      rw [hsplit, List.modifyHead_cons] at h
      rw [hsplit] at ih
      rcases List.mem_cons.mp h with rfl | hrest
      · have hfirst := ih List.mem_cons_self
        rw [List.mem_cons, not_or]
        exact ⟨fun heq => ha (by simp [heq]), hfirst⟩
      · exact ih (List.mem_cons_of_mem _ hrest)

theorem mem_parts {text part : List α} (h : part ∈ parts sep text) : part ≠ [] ∧ sep ∉ part := by
  obtain ⟨hsplit, hnonempty⟩ := List.mem_filter.mp h
  exact ⟨by simpa using hnonempty, sep_notMem_splitOn sep hsplit⟩

theorem parts_unsplit {pieces : List (List α)} (h : ∀ piece ∈ pieces, piece ≠ [] ∧ sep ∉ piece) :
    parts sep (unsplit sep pieces) = pieces := by
  induction pieces using List.reverseRecOn with
  | nil => exact parts_nil sep
  | append_singleton pieces piece ih =>
    have hlast := h piece (by simp)
    have hshape : unsplit sep (pieces ++ [piece]) = unsplit sep pieces ++ sep :: piece := by simp [unsplit]
    rw [hshape, parts_append, parts_of_sepFree sep hlast.1 hlast.2, ih fun part hpart => h part (by simp [hpart])]

/-- What a text is without its empty parts decides its parts, and the other way round. -/
theorem unsplit_parts_iff {text : List α} {pieces : List (List α)}
    (h : ∀ piece ∈ pieces, piece ≠ [] ∧ sep ∉ piece) :
    unsplit sep (parts sep text) = unsplit sep pieces ↔ parts sep text = pieces := by
  constructor
  · intro heq
    rw [← parts_unsplit sep h, ← heq, parts_unsplit sep fun part hpart => mem_parts sep hpart]
  · exact fun heq => by rw [heq]

end Parts

section Templates

variable (opening closing : α)

inductive Token (α : Type)
  | plain (a : α)
  | hole (name : List α)
deriving DecidableEq

/-- The text read from left to right; inside a hole, with the name read so far. -/
def tokensFrom : Option (List α) → List α → List (Token α)
  | _, [] => []
  | none, a :: text => if a = opening then tokensFrom (some []) text else .plain a :: tokensFrom none text
  | some name, a :: text =>
    if a = closing then .hole name :: tokensFrom none text else tokensFrom (some (name ++ [a])) text

/-- The names of the holes of a template. -/
def holes (template : List α) : List (List α) :=
  (tokensFrom opening closing none template).filterMap fun
    | .plain _ => none
    | .hole name => some name

/-- The template with a value in each hole. -/
def filled (values : List α → List α) (template : List α) : List α :=
  (tokensFrom opening closing none template).flatMap fun
    | .plain a => [a]
    | .hole name => values name

theorem tokens_plain {text : List α} (htext : opening ∉ text) (rest : List α) :
    tokensFrom opening closing none (text ++ rest) = text.map .plain ++ tokensFrom opening closing none rest := by
  induction text with
  | nil => rfl
  | cons a text ih =>
    rw [List.mem_cons, not_or] at htext
    rw [List.cons_append, tokensFrom, if_neg (Ne.symm htext.1), ih htext.2]
    rfl

theorem tokens_name {name : List α} (hname : closing ∉ name) (seen rest : List α) :
    tokensFrom opening closing (some seen) (name ++ closing :: rest) =
      .hole (seen ++ name) :: tokensFrom opening closing none rest := by
  induction name generalizing seen with
  | nil => rw [List.nil_append, tokensFrom, if_pos rfl, List.append_nil]
  | cons a name ih =>
    rw [List.mem_cons, not_or] at hname
    rw [List.cons_append, tokensFrom, if_neg (Ne.symm hname.1), ih hname.2, List.append_assoc]
    rfl

/-- One part of a template, with at most one hole. -/
inductive Piece (α : Type)
  | literal (text : List α)
  | hole (before name after : List α)
deriving DecidableEq

namespace Piece

def text : Piece α → List α
  | .literal text => text
  | .hole before name after => before ++ opening :: name ++ closing :: after

/-- The piece that a text with at most one hole is read as. -/
def ofText (text : List α) : Piece α :=
  let before := text.takeWhile (· != opening)
  match text.drop before.length with
  | [] => .literal text
  | _ :: rest =>
    let name := rest.takeWhile (· != closing)
    match rest.drop name.length with
    | [] => .literal text
    | _ :: after => .hole before name after

def names : Piece α → List (List α)
  | .literal _ => []
  | .hole _ name _ => [name]

def filled (values : List α → List α) : Piece α → List α
  | .literal text => text
  | .hole before name after => before ++ values name ++ after

def WellFormed (sep opening closing : α) : Piece α → Prop
  | .literal text => text ≠ [] ∧ sep ∉ text ∧ opening ∉ text
  | .hole before name after => name ≠ [] ∧ sep ∉ before ∧ sep ∉ name ∧ sep ∉ after ∧ opening ∉ before ∧
      opening ∉ after ∧ closing ∉ name

instance (sep opening closing : α) (piece : Piece α) : Decidable (piece.WellFormed sep opening closing) := by
  cases piece <;> unfold WellFormed <;> infer_instance

/-- What a part of a text must be to be an instance of the piece. -/
def Fits (sep : α) (part : List α) : Piece α → Prop
  | .literal text => part = text
  | .hole before _ after => ∃ value, value ≠ [] ∧ sep ∉ value ∧ part = before ++ value ++ after

/-- No part is an instance of both pieces. -/
def apart : Piece α → Piece α → Bool
  | .literal text, .literal text' => text != text'
  | .literal text, .hole before _ after | .hole before _ after, .literal text =>
    !(before.isPrefixOf text && after.isSuffixOf text && decide (before.length + after.length < text.length))
  | .hole before _ after, .hole before' _ after' =>
    !(before.isPrefixOf before' || before'.isPrefixOf before) || !(after.isSuffixOf after' || after'.isSuffixOf after)

variable {opening closing} {sep : α} {piece other : Piece α} {part : List α}

theorem tokens_text (h : piece.WellFormed sep opening closing) (rest : List α) :
    tokensFrom opening closing none (piece.text opening closing ++ rest) =
      (match piece with
        | .literal text => text.map Token.plain
        | .hole before name after => before.map .plain ++ .hole name :: after.map .plain) ++
      tokensFrom opening closing none rest := by
  cases piece with
  | literal text => exact tokens_plain opening closing h.2.2 rest
  | hole before name after =>
    obtain ⟨-, -, -, -, hbefore, hafter, hname⟩ := h
    have hopen : text opening closing (.hole before name after) ++ rest =
        before ++ opening :: (name ++ closing :: (after ++ rest)) := by simp [text]
    rw [hopen, tokens_plain opening closing hbefore, tokensFrom, if_pos rfl,
      tokens_name opening closing hname [], List.nil_append, tokens_plain opening closing hafter]
    simp

theorem filled_text (h : piece.WellFormed sep opening closing) (values : List α → List α) (rest : List α) :
    PathTemplate.filled opening closing values (piece.text opening closing ++ rest) =
      piece.filled values ++ PathTemplate.filled opening closing values rest := by
  have hplain (text : List α) : (text.map Token.plain).flatMap (fun
      | .plain a => [a]
      | .hole name => values name) = text := by
    rw [List.flatMap_map]
    exact List.flatMap_singleton' text
  unfold PathTemplate.filled
  rw [tokens_text h, List.flatMap_append]
  cases piece with
  | literal text => rw [hplain]; rfl
  | hole before name after =>
    simp only [List.flatMap_append, List.flatMap_cons, hplain, filled, List.append_assoc]

theorem holes_text (h : piece.WellFormed sep opening closing) (rest : List α) :
    holes opening closing (piece.text opening closing ++ rest) = piece.names ++ holes opening closing rest := by
  have hplain (text : List α) : (text.map Token.plain).filterMap (fun
      | .plain _ => none
      | .hole name => some name) = ([] : List (List α)) := by
    rw [List.filterMap_map]
    exact List.filterMap_eq_nil_iff.mpr fun a _ => rfl
  unfold holes
  rw [tokens_text h, List.filterMap_append]
  cases piece with
  | literal text => rw [hplain]; rfl
  | hole before name after => simp only [List.filterMap_append, List.filterMap_cons, hplain, names, List.nil_append]

theorem filled_unsplit (hsep : sep ≠ opening) {pieces : List (Piece α)}
    (h : ∀ piece ∈ pieces, piece.WellFormed sep opening closing) (values : List α → List α) :
    PathTemplate.filled opening closing values (unsplit sep (pieces.map (text opening closing))) =
      unsplit sep (pieces.map (filled values)) := by
  induction pieces with
  | nil => rfl
  | cons piece pieces ih =>
    have hsplit (f : Piece α → List α) : unsplit sep ((piece :: pieces).map f) =
        sep :: (f piece ++ unsplit sep (pieces.map f)) := by simp [unsplit]
    rw [hsplit, hsplit, ← ih fun other hother => h other (List.mem_cons_of_mem _ hother),
      ← filled_text (h piece List.mem_cons_self)]
    unfold PathTemplate.filled
    rw [tokensFrom, if_neg hsep]
    rfl

theorem holes_unsplit (hsep : sep ≠ opening) {pieces : List (Piece α)}
    (h : ∀ piece ∈ pieces, piece.WellFormed sep opening closing) :
    holes opening closing (unsplit sep (pieces.map (text opening closing))) = pieces.flatMap names := by
  induction pieces with
  | nil => rfl
  | cons piece pieces ih =>
    have hsplit : unsplit sep ((piece :: pieces).map (text opening closing)) =
        sep :: (piece.text opening closing ++ unsplit sep (pieces.map (text opening closing))) := by simp [unsplit]
    rw [hsplit, List.flatMap_cons, ← ih fun other hother => h other (List.mem_cons_of_mem _ hother),
      ← holes_text (h piece List.mem_cons_self)]
    unfold holes
    rw [tokensFrom, if_neg hsep]
    rfl

omit [DecidableEq α] in
theorem text_isPart (hopening : sep ≠ opening) (hclosing : sep ≠ closing) (h : piece.WellFormed sep opening closing) :
    piece.text opening closing ≠ [] ∧ sep ∉ piece.text opening closing := by
  cases piece with
  | literal text => exact ⟨h.1, h.2.1⟩
  | hole before name after =>
    obtain ⟨-, hbefore, hname, hafter, -⟩ := h
    simp [text, hopening, hclosing, hbefore, hname, hafter]

omit [DecidableEq α] in
/-- A part that fits a piece is a part: it is not empty and holds no separator. -/
theorem Fits.isPart (h : piece.WellFormed sep opening closing) (hfits : piece.Fits sep part) :
    part ≠ [] ∧ sep ∉ part := by
  cases piece with
  | literal text =>
    rw [show part = text from hfits]
    exact ⟨h.1, h.2.1⟩
  | hole before name after =>
    obtain ⟨value, hvalue, hsep, rfl⟩ := hfits
    obtain ⟨-, hbefore, -, hafter, -⟩ := h
    simp [hvalue, hsep, hbefore, hafter]

omit [DecidableEq α] in
theorem ends_of_fits_hole {before name after : List α} (hfits : Fits sep part (.hole before name after)) :
    before <+: part ∧ after <:+ part ∧ before.length + after.length < part.length := by
  obtain ⟨value, hvalue, -, rfl⟩ := hfits
  refine ⟨⟨value ++ after, by simp⟩, ⟨before ++ value, rfl⟩, ?_⟩
  have hlength := List.length_pos_of_ne_nil hvalue
  simp only [List.length_append]
  omega

/-- Nothing is an instance of two pieces that are apart. -/
theorem apart_sound (hapart : piece.apart other = true) (hfits : piece.Fits sep part) (hother : other.Fits sep part) :
    False := by
  have hcross {text before name after : List α} (hliteral : part = text) (hhole : Fits sep part (.hole before name after))
      (hfalse : (!(before.isPrefixOf text && after.isSuffixOf text &&
        decide (before.length + after.length < text.length))) = true) : False := by
    obtain ⟨hbegins, hends, hlength⟩ := ends_of_fits_hole hhole
    rw [hliteral] at hbegins hends hlength
    rw [List.isPrefixOf_iff_prefix.mpr hbegins, List.isSuffixOf_iff_suffix.mpr hends, decide_eq_true hlength] at hfalse
    cases hfalse
  cases piece with
  | literal text =>
    cases other with
    | literal text' =>
      rw [show part = text from hfits] at hother
      rw [show text = text' from hother] at hapart
      simp [apart] at hapart
    | hole before name after => exact hcross hfits hother hapart
  | hole before name after =>
    cases other with
    | literal text => exact hcross hother hfits hapart
    | hole before' name' after' =>
      obtain ⟨hbegins, hends, -⟩ := ends_of_fits_hole hfits
      obtain ⟨hbegins', hends', -⟩ := ends_of_fits_hole hother
      have hfirst := List.prefix_or_prefix_of_prefix hbegins hbegins'
      have hlast := List.suffix_or_suffix_of_suffix hends hends'
      simp only [apart, Bool.or_eq_true, Bool.not_eq_true', Bool.or_eq_false_iff] at hapart
      rcases hapart with ⟨hno, hno'⟩ | ⟨hno, hno'⟩
      · rcases hfirst with hfirst | hfirst
        · rw [List.isPrefixOf_iff_prefix.mpr hfirst] at hno
          cases hno
        · rw [List.isPrefixOf_iff_prefix.mpr hfirst] at hno'
          cases hno'
      · rcases hlast with hlast | hlast
        · rw [List.isSuffixOf_iff_suffix.mpr hlast] at hno
          cases hno
        · rw [List.isSuffixOf_iff_suffix.mpr hlast] at hno'
          cases hno'

omit [DecidableEq α] in
theorem fits_filled {values : List α → List α} (hvalues : ∀ name ∈ piece.names, values name ≠ [] ∧ sep ∉ values name) :
    piece.Fits sep (piece.filled values) := by
  cases piece with
  | literal text => exact rfl
  | hole before name after =>
    obtain ⟨hvalue, hsep⟩ := hvalues name (List.mem_singleton.mpr rfl)
    exact ⟨values name, hvalue, hsep, rfl⟩

omit [DecidableEq α] in
theorem filled_inj {values values' : List α → List α} :
    piece.filled values = piece.filled values' ↔ ∀ name ∈ piece.names, values name = values' name := by
  cases piece with
  | literal text => simp [filled, names]
  | hole before name after => simp [filled, names]

omit [DecidableEq α] in
/-- What fills the holes can be read off the filled pieces. -/
theorem map_filled_inj {pieces : List (Piece α)} {values values' : List α → List α} :
    pieces.map (filled values) = pieces.map (filled values') ↔
      ∀ name ∈ pieces.flatMap names, values name = values' name := by
  rw [List.map_inj_left]
  simp only [filled_inj, List.mem_flatMap]
  exact ⟨fun h name ⟨piece, hpiece, hname⟩ => h piece hpiece name hname,
    fun h piece hpiece name hname => h name ⟨piece, hpiece, hname⟩⟩

end Piece

/-- Templates of different lengths, or with two pieces apart in one position. -/
def templatesApart (left right : List (Piece α)) : Bool :=
  left.length != right.length || (left.zip right).any fun pair => pair.1.apart pair.2

theorem templatesApart_sound {sep : α} {left right : List (Piece α)} {texts : List (List α)}
    (hapart : templatesApart left right = true) (hleft : List.Forall₂ (Piece.Fits sep) texts left)
    (hright : List.Forall₂ (Piece.Fits sep) texts right) : False := by
  have hlength : left.length = right.length := hleft.length_eq.symm.trans hright.length_eq
  have hany : (left.zip right).any (fun pair => pair.1.apart pair.2) = true := by
    rw [templatesApart, hlength] at hapart
    simpa using hapart
  clear hapart hlength
  induction hleft generalizing right with
  | nil => simp at hany
  | cons hfits hrest ih =>
    cases hright with
    | cons hother hothers =>
      rw [List.zip_cons_cons, List.any_cons, Bool.or_eq_true] at hany
      rcases hany with hfirst | hlater
      · exact Piece.apart_sound hfirst hfits hother
      · exact ih hothers hlater

end Templates

end Starweaver.Library.PathTemplate
