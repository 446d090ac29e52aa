import CodeSurvey.Text.Lower

/-!
# Paths

Paths are texts whose components are separated by slashes. Empty components and components that
are a single point say nothing; a slash in front makes a path absolute, and exactly two slashes
in front are kept.

## Main definitions

* `Path.parts p`: the components that say something.
* `Path.name p`, `Path.stem p`, `Path.suffix p`: the last component and its two halves.
* `Path.folder p`: the path of the folder that holds `p`, written out.
* `Path.fits p`: whether `p` is short enough for the system.
-/

namespace CodeSurvey
namespace Path

/-- The slashes that make a path absolute. -/
def anchor (p : Text) : Text :=
  match p with
  | '/' :: '/' :: '/' :: _ => ['/']
  | '/' :: '/' :: _ => ['/', '/']
  | '/' :: _ => ['/']
  | _ => []

/-- The components of a path. -/
def parts (p : Text) : List Text :=
  (Text.splitOn '/' p).filter fun part => !part.isEmpty && part != ['.']

/-- The path written with single slashes; a path of no components is a single point. -/
def written (anchor : Text) (parts : List Text) : Text :=
  if anchor.isEmpty && parts.isEmpty then ['.'] else anchor ++ Text.joinWith ['/'] parts

/-- The path as the system is given it: with single slashes, without what says nothing. -/
def normal (p : Text) : Text := written (anchor p) (parts p)

/-- The number of bytes from which on the system refuses a path. -/
def sizeLimit : Nat := 4096

/-- Whether a path is short enough for the system. -/
def fits (p : Text) : Bool := (String.ofList (normal p)).utf8ByteSize < sizeLimit

/-- The last component. -/
def name (p : Text) : Text := (parts p).getLastD []

/-- The folder that holds the path. The folder of an anchor is the anchor itself. -/
def folder (p : Text) : Text := written (anchor p) (parts p).dropLast

/-- A name cut before its last point, unless that point is its first or its last character. -/
def splitName (name : Text) : Text × Text :=
  let tail := (name.reverse.takeWhile (· != '.')).reverse
  let stem := name.take (name.length - tail.length - 1)
  if name.contains '.' && !stem.isEmpty && !tail.isEmpty then (stem, '.' :: tail) else (name, [])

/-- The last component without its suffix. -/
def stem (p : Text) : Text := (splitName (name p)).1

/-- The last point of the name and what follows it, if something stands on both sides. -/
def suffix (p : Text) : Text := (splitName (name p)).2

/-- The suffix in small letters. -/
def lowerSuffix (p : Text) : Text := Text.lower (suffix p)

/-- The path of an entry of a folder; the entries of the top folder go by their names. -/
def child (folder name : Text) : Text := if folder.isEmpty then name else folder ++ '/' :: name

/-- The two halves of a name make up the name. -/
theorem splitName_append (name : Text) : (splitName name).1 ++ (splitName name).2 = name := by
  unfold splitName
  simp only
  split
  · rename_i h
    simp only [Bool.and_eq_true, List.contains_iff_mem] at h
    obtain ⟨⟨hmem, -⟩, -⟩ := h
    have hdrop : name.reverse.dropWhile (· != '.') ≠ [] := by
      intro hnil
      have := List.takeWhile_append_dropWhile (p := (· != '.')) (l := name.reverse)
      rw [hnil, List.append_nil] at this
      have hall := List.all_takeWhile (p := (· != '.')) (l := name.reverse)
      rw [this, List.all_eq_true] at hall
      simpa using hall '.' (by simpa using hmem)
    obtain ⟨c, rest, hcr⟩ := List.exists_cons_of_ne_nil hdrop
    have hc : c = '.' := by
      have hh := List.head?_dropWhile_not (p := (· != '.')) (l := name.reverse)
      rw [hcr] at hh
      simpa using hh
    have hsplit : name = rest.reverse ++ '.' :: (name.reverse.takeWhile (· != '.')).reverse := by
      have := List.takeWhile_append_dropWhile (p := (· != '.')) (l := name.reverse)
      rw [hcr, hc] at this
      have := congrArg List.reverse this
      simpa using this.symm
    generalize (name.reverse.takeWhile (· != '.')).reverse = tail at hsplit ⊢
    subst hsplit
    have hlen : rest.length + (tail.length + 1) - tail.length - 1 = rest.length := by omega
    simp [hlen]
  · simp

end Path
end CodeSurvey
