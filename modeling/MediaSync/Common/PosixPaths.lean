import MediaSync.Common.PythonText

/-!
# Pure POSIX paths

The part of pure path arithmetic that a program needs which never looks at a
file system: a path is a root and its parts, empty parts and single dots are
dropped, two leading slashes are a root of their own, and joining with an
absolute path forgets the left operand. Two dots are kept as a part.
-/
namespace MediaSync.PosixPaths
open PythonText

structure PurePosixPath where
  root : List Char
  parts : List (List Char)
  deriving DecidableEq, Repr

namespace PurePosixPath

/-- The pieces of a text between slashes. -/
def splitSlash : List Char → List (List Char)
  | [] => [[]]
  | c :: cs =>
    match splitSlash cs with
    | [] => [[c]]
    | piece :: pieces => if c = '/' then [] :: piece :: pieces else (c :: piece) :: pieces

def rootOf : List Char → List Char
  | '/' :: '/' :: '/' :: _ => ['/']
  | '/' :: '/' :: _ => ['/', '/']
  | '/' :: _ => ['/']
  | _ => []

def ofString (text : String) : PurePosixPath where
  root := rootOf text.toList
  parts := (splitSlash text.toList).filter fun piece => piece ≠ [] ∧ piece ≠ ['.']

def join (path : PurePosixPath) (text : String) : PurePosixPath :=
  let right := ofString text
  if right.root = [] then ⟨path.root, path.parts ++ right.parts⟩ else right

def toString (path : PurePosixPath) : String :=
  if path.root = [] ∧ path.parts = [] then "."
  else String.ofList (path.root ++ (path.parts.intersperse ['/']).flatten)

/-- A path as the parser makes them. -/
structure Normal (path : PurePosixPath) : Prop where
  root : path.root = [] ∨ path.root = ['/'] ∨ path.root = ['/', '/']
  parts : ∀ part ∈ path.parts, '/' ∉ part ∧ part ≠ [] ∧ part ≠ ['.']

theorem splitSlash_eq (cs : List Char) : splitSlash cs = splitChar '/' cs := by
  induction cs with
  | nil => rfl
  | cons c cs ih =>
    cases hrest : splitChar '/' cs with
    | nil => simp only [splitSlash, splitChar, ih, hrest]
    | cons piece pieces => simp only [splitSlash, splitChar, ih, hrest]

theorem rootOf_cases (cs : List Char) :
    rootOf cs = [] ∨ rootOf cs = ['/'] ∨ rootOf cs = ['/', '/'] := by
  unfold rootOf
  split <;> simp

theorem rootOf_of_ne {c : Char} {cs : List Char} (h : c ≠ '/') : rootOf (c :: cs) = [] := by
  unfold rootOf
  split <;> simp_all

theorem rootOf_slash {c : Char} {cs : List Char} (h : c ≠ '/') :
    rootOf ('/' :: c :: cs) = ['/'] := by
  rw [rootOf]
  · rintro rest heq
    exact h (List.cons.inj heq).1
  · rintro rest heq
    exact h (List.cons.inj heq).1

theorem rootOf_slashes {c : Char} {cs : List Char} (h : c ≠ '/') :
    rootOf ('/' :: '/' :: c :: cs) = ['/', '/'] := by
  rw [rootOf]
  rintro rest heq
  exact h (List.cons.inj heq).1

theorem normal_ofString (text : String) : (ofString text).Normal where
  root := rootOf_cases _
  parts part h := by
    rw [ofString, List.mem_filter, splitSlash_eq, decide_eq_true_eq] at h
    exact ⟨notMem_of_mem_splitChar h.1, h.2⟩

theorem Normal.join {path : PurePosixPath} (h : path.Normal) (text : String) :
    (path.join text).Normal := by
  have hright := normal_ofString text
  unfold PurePosixPath.join
  dsimp only
  split_ifs
  · refine ⟨h.root, fun part hpart => ?_⟩
    rcases List.mem_append.mp hpart with hpart | hpart
    · exact h.parts part hpart
    · exact hright.parts part hpart
  · exact hright

theorem splitSlash_intersperse {parts : List (List Char)} (hne : parts ≠ [])
    (h : ∀ part ∈ parts, '/' ∉ part) : splitSlash (parts.intersperse ['/']).flatten = parts := by
  rw [splitSlash_eq]
  induction parts with
  | nil => exact absurd rfl hne
  | cons part parts ih =>
    have hpart := h part (List.mem_cons_self ..)
    cases parts with
    | nil => simpa using splitChar_of_notMem hpart
    | cons next rest =>
      rw [List.intersperse_cons_cons, List.flatten_cons, List.flatten_cons, List.singleton_append,
        splitChar_append hpart, ih (List.cons_ne_nil _ _) fun part hmem => h part
          (List.mem_cons_of_mem _ hmem)]

theorem Normal.filter_parts {path : PurePosixPath} (h : path.Normal) :
    path.parts.filter (fun piece => piece ≠ [] ∧ piece ≠ ['.']) = path.parts :=
  List.filter_eq_self.mpr fun part hpart => decide_eq_true (h.parts part hpart).2

/-- The text of the parts begins with no slash. -/
theorem Normal.head_ne {path : PurePosixPath} (h : path.Normal) (hne : path.parts ≠ []) :
    ∃ c cs, c ≠ '/' ∧ (path.parts.intersperse ['/']).flatten = c :: cs := by
  obtain ⟨part, parts, heq⟩ := List.exists_cons_of_ne_nil hne
  obtain ⟨hslash, hpart, -⟩ := h.parts part (heq ▸ List.mem_cons_self ..)
  obtain ⟨c, cs, rfl⟩ := List.exists_cons_of_ne_nil hpart
  rw [heq]
  refine ⟨c, (cs :: ((c :: cs) :: parts |>.intersperse ['/']).tail).flatten, ?_, ?_⟩
  · rintro rfl
    exact hslash (List.mem_cons_self ..)
  · cases parts <;> simp

/-- Parsing the text of a path gives the path back. -/
theorem ofString_toString {path : PurePosixPath} (h : path.Normal) :
    ofString path.toString = path := by
  obtain ⟨root, parts⟩ := path
  by_cases hne : parts = []
  · subst hne
    rcases h.root with hroot | hroot | hroot <;> subst hroot <;> rfl
  · obtain ⟨c, cs, hc, htext⟩ := h.head_ne hne
    have hsplit := splitSlash_intersperse hne fun part hpart => (h.parts part hpart).1
    have hfilter := h.filter_parts
    dsimp only at hsplit hfilter htext
    unfold PurePosixPath.toString ofString
    rw [if_neg fun hempty => hne hempty.2]
    simp only [String.toList_ofList]
    rw [htext] at hsplit ⊢
    rcases h.root with hroot | hroot | hroot <;> dsimp only at hroot <;> subst hroot
    · rw [List.nil_append, rootOf_of_ne hc, hsplit, hfilter]
    · rw [List.singleton_append, rootOf_slash hc, splitSlash_eq, splitChar_sep, ← splitSlash_eq,
        hsplit, List.filter_cons_of_neg (by simp), hfilter]
    · rw [List.cons_append, List.singleton_append, rootOf_slashes hc, splitSlash_eq, splitChar_sep,
        splitChar_sep, ← splitSlash_eq, hsplit, List.filter_cons_of_neg (by simp),
        List.filter_cons_of_neg (by simp), hfilter]

/-- The part of a path below another one. -/
def relativeTo (path root : PurePosixPath) : Option PurePosixPath :=
  if path.root = root.root ∧ root.parts <+: path.parts then
    some ⟨[], path.parts.drop root.parts.length⟩
  else none

end PurePosixPath

/-- The components of a normal path, last one first: a double dot takes back
the component before it, unless there is none to take back. -/
def normalize (absolute : Bool) : List (List Char) → List (List Char) → List (List Char)
  | done, [] => done
  | done, piece :: rest =>
    if piece = [] ∨ piece = ['.'] then normalize absolute done rest
    else if piece ≠ ['.', '.'] ∨ (absolute = false ∧ done = []) ∨ done.head? = some ['.', '.'] then
      normalize absolute (piece :: done) rest
    else normalize absolute done.tail rest

/-- `posixpath.normpath` -/
def normpath (text : List Char) : List Char :=
  let root := PurePosixPath.rootOf text
  let pieces := normalize (!root.isEmpty) [] (PurePosixPath.splitSlash text)
  let path := root ++ (pieces.reverse.intersperse ['/']).flatten
  if path = [] then ['.'] else path

example : normpath "//dev/./snd/../dri/card0/".toList = "//dev/dri/card0".toList := by decide

example : ((PurePosixPath.ofString "").join "show").toString = "show" := by decide

example :
    ((PurePosixPath.ofString "show").join "./s01//e01.mkv").toString = "show/s01/e01.mkv" := by
  decide

end MediaSync.PosixPaths
