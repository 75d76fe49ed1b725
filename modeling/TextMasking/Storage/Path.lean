import TextMasking.Text.Split

/-!
# Paths

A path is kept as it is written. Its steps are the names between the slashes; empty steps and single
dots lead nowhere. A path that ends in one of those must be a directory.
-/

namespace TextMasking.Path

/-- What stands between the slashes of a path. -/
def segments (path : String) : List String :=
  Text.split '/' path

/-- Whether a segment leads nowhere. -/
def isIdle (segment : String) : Bool :=
  segment == "" || segment == "."

/-- The names that a path goes through. -/
def steps (path : String) : List String :=
  (segments path).filter fun s => !isIdle s

/-- Whether a path starts at the root. -/
def isAbsolute (path : String) : Bool :=
  path.toList.head? == some '/'

/-- Whether a path can only be a directory. -/
def namesDirectory (path : String) : Bool :=
  match (segments path).reverse with
  | last :: _ => isIdle last
  | [] => false

/-- A path below another. -/
def join (path below : String) : String :=
  if isAbsolute below then below
  else if path.toList.getLast? = some '/' then path ++ below
  else path ++ "/" ++ below

/-- Drops the segments at the end that lead nowhere, apart from the first of all; the last segment
comes first. -/
def dropIdle : List String → List String
  | last :: before :: rest =>
    if isIdle last then dropIdle (before :: rest) else last :: before :: rest
  | segments => segments

theorem length_dropIdle_le (segments : List String) :
    (dropIdle segments).length ≤ segments.length := by
  fun_induction dropIdle segments with
  | case1 last before rest _ ih => exact Nat.le_succ_of_le ih
  | case2 => exact Nat.le_refl _
  | case3 => exact Nat.le_refl _

/-- The path of segments, the last one first. -/
def ofReversed (segments : List String) : String :=
  if segments = [""] then "/" else "/".intercalate segments.reverse

/-- The paths above a path, nearest first, given the segments of the path, the last one first. The
root and the empty path have none. -/
def aboveReversed (segments : List String) : List String :=
  match _h : dropIdle segments with
  | _ :: before :: rest =>
    let parent := dropIdle (before :: rest)
    ofReversed parent :: aboveReversed parent
  | _ => []
termination_by segments.length
decreasing_by
  have h1 := length_dropIdle_le segments
  have h2 := length_dropIdle_le (before :: rest)
  simp only [_h, List.length_cons] at h1 h2 ⊢
  omega

/-- The directories above a path that it names, nearest first. -/
def above (path : String) : List String :=
  aboveReversed (segments path).reverse

end TextMasking.Path
