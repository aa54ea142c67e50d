import Mathlib.Data.List.DropRight
import Mathlib.Data.List.Infix

/-! Paths of URLs: how a relative path is resolved, by RFC 3986. -/

namespace Starweaver.Library.UrlPath

/-- The path up to its last slash. -/
def directory (path : List Char) : List Char := path.rdropWhile (· != '/')

def merge (base reference : List Char) : List Char :=
  if base = [] then '/' :: reference else directory base ++ reference

/-- The segments behind the first slash; `output` holds those already read. -/
def removeDots (output : List (List Char)) : List (List Char) → List (List Char)
  | [] => output
  | segment :: rest =>
    if segment = ['.'] then if rest = [] then output ++ [[]] else removeDots output rest
    else if segment = ['.', '.'] then if rest = [] then output.dropLast ++ [[]] else removeDots output.dropLast rest
    else removeDots (output ++ [segment]) rest

def removeDotSegments (path : List Char) : List Char :=
  match path.splitOn '/' with
  | [] => []
  | first :: segments => ['/'].intercalate (first :: removeDots [] segments)

def resolve (base reference : List Char) : List Char := removeDotSegments (merge base reference)

/-- A segment that stands for a directory: one dot or two, percent-encoded or not. -/
def isDotSegment (segment : List Char) : Bool :=
  segment.map Char.toLower ∈ [['.'], ['%', '2', 'e'], ['.', '.'], ['.', '%', '2', 'e'], ['%', '2', 'e', '.'],
    ['%', '2', 'e', '%', '2', 'e']]

def NoDots (path : List Char) : Prop := ∀ segment ∈ path.splitOn '/', isDotSegment segment = false

def isPathChar (c : Char) : Bool := c.isAlphanum || c ∈ ['-', '.', '_', '~', '%', ':', '/']

/-- A relative path that no reader takes for a URL, an absolute path or a way to another directory. -/
def RelativePath (reference : List Char) : Prop :=
  reference.all isPathChar = true ∧ reference ≠ [] ∧ reference.head? ≠ some '/' ∧
    ':' ∉ reference.takeWhile (· != '/') ∧ NoDots reference

instance (path : List Char) : Decidable (NoDots path) := by
  unfold NoDots
  infer_instance

instance (reference : List Char) : Decidable (RelativePath reference) := by
  unfold RelativePath
  infer_instance

variable {base reference path : List Char}

theorem removeDots_eq {segments : List (List Char)} (h : ∀ segment ∈ segments, isDotSegment segment = false)
    (output : List (List Char)) : removeDots output segments = output ++ segments := by
  induction segments generalizing output with
  | nil => rw [removeDots, List.append_nil]
  | cons segment segments ih =>
    have hsegment := h segment List.mem_cons_self
    have hone : segment ≠ ['.'] := by
      rintro rfl
      exact absurd hsegment (by decide)
    have htwo : segment ≠ ['.', '.'] := by
      rintro rfl
      exact absurd hsegment (by decide)
    rw [removeDots, if_neg hone, if_neg htwo, ih fun other hother => h other (List.mem_cons_of_mem _ hother),
      List.append_assoc]
    rfl

theorem removeDotSegments_eq (h : NoDots path) : removeDotSegments path = path := by
  unfold removeDotSegments
  unfold NoDots at h
  obtain ⟨first, segments, hsplit⟩ := List.exists_cons_of_ne_nil (List.splitOn_ne_nil '/' path)
  rw [hsplit] at h ⊢
  dsimp only
  rw [removeDots_eq (fun segment hsegment => h segment (List.mem_cons_of_mem _ hsegment)), List.nil_append, ← hsplit]
  exact List.intercalate_splitOn '/'

theorem noDots_append (hbase : NoDots base) (hreference : NoDots reference) : NoDots (base ++ '/' :: reference) := by
  unfold NoDots
  rw [List.splitOn_append_cons_self]
  intro segment hsegment
  rcases List.mem_append.mp hsegment with hsegment | hsegment
  · exact hbase segment hsegment
  · exact hreference segment hsegment

theorem RelativePath.append (hbase : RelativePath base) (hchars : reference.all isPathChar = true)
    (hreference : NoDots reference) : RelativePath (base ++ '/' :: reference) := by
  obtain ⟨hbaseChars, hnonempty, hslash, hcolon, hdots⟩ := hbase
  refine ⟨?_, by simp, ?_, ?_, noDots_append hdots hreference⟩
  · rw [List.all_append, List.all_cons, hbaseChars, hchars]
    rfl
  · rw [List.head?_append_of_ne_nil _ hnonempty]
    exact hslash
  · rw [List.takeWhile_append]
    split
    · rename_i hwhole
      rw [(List.takeWhile_prefix _).eq_of_length hwhole] at hcolon
      simpa using hcolon
    · exact hcolon

theorem merge_directory : merge (base ++ ['/']) reference = base ++ '/' :: reference := by
  rw [merge, if_neg (by simp), directory, List.rdropWhile_concat_neg _ _ _ (by simp), List.append_assoc]
  rfl

/-- Below a directory without dots, a path without dots is only appended. -/
theorem resolve_directory (hbase : NoDots base) (hreference : NoDots reference) :
    resolve (base ++ ['/']) reference = base ++ '/' :: reference := by
  rw [resolve, merge_directory, removeDotSegments_eq (noDots_append hbase hreference)]

theorem removeDots_ne_nil {segments : List (List Char)} (h : segments ≠ []) (output : List (List Char)) :
    removeDots output segments ≠ [] := by
  induction segments generalizing output with
  | nil => exact absurd rfl h
  | cons segment segments ih =>
    have hlast : removeDots (output ++ [segment]) segments ≠ [] := by
      by_cases hsegments : segments = []
      · rw [hsegments, removeDots]
        simp
      · exact ih hsegments _
    rw [removeDots]
    split
    · split
      · simp
      · rename_i hrest
        exact ih hrest _
    · split
      · split
        · simp
        · rename_i hrest
          exact ih hrest _
      · exact hlast

theorem removeDotSegments_slash (path : List Char) : ∃ rest, removeDotSegments ('/' :: path) = '/' :: rest := by
  have hsplit : ('/' :: path).splitOn '/' = [] :: path.splitOn '/' := by
    rw [List.splitOn_cons_eq_if_modifyHead, if_pos (beq_self_eq_true _)]
  obtain ⟨segment, segments, hsegments⟩ :=
    List.exists_cons_of_ne_nil (removeDots_ne_nil (List.splitOn_ne_nil '/' path) [])
  rw [removeDotSegments, hsplit]
  dsimp only
  rw [hsegments]
  exact ⟨_, rfl⟩

theorem directory_slash (path : List Char) : ∃ rest, directory ('/' :: path) = '/' :: rest := by
  induction path using List.reverseRecOn with
  | nil => exact ⟨[], rfl⟩
  | append_singleton path c ih =>
    rw [directory, ← List.cons_append]
    by_cases hc : c = '/'
    · rw [List.rdropWhile_concat_neg _ _ _ (by simp [hc])]
      exact ⟨_, rfl⟩
    · rw [List.rdropWhile_concat_pos _ _ _ (by simp [hc])]
      exact ih

/-- From an absolute path, an absolute path. -/
theorem resolve_slash (base reference : List Char) : ∃ rest, resolve ('/' :: base) reference = '/' :: rest := by
  obtain ⟨rest, hrest⟩ := directory_slash base
  rw [resolve, merge, if_neg (List.cons_ne_nil _ _), hrest]
  exact removeDotSegments_slash _

example : String.ofList (resolve "/b/c/d".toList "../g/./h".toList) = "/b/g/h" := by decide +kernel

end Starweaver.Library.UrlPath
