import UtilityLayout.Text.Split
/-! Paths as written. Empty components and single dots are dropped; double dots are kept, since what they
mean is up to the files. Exactly two leading slashes are an anchor of their own. -/
namespace UtilityLayout

inductive Anchor where
  | relative
  | root
  | doubleRoot
  deriving DecidableEq, Repr

def Anchor.text : Anchor → String
  | relative => ""
  | root => "/"
  | doubleRoot => "//"

structure Path where
  anchor : Anchor
  parts : List String
  deriving DecidableEq, Repr

namespace Path

def components (text : List Char) : List String :=
  ((Text.split (· == '/') text).filter fun part => !(part.isEmpty || part == ['.'])).map String.ofList

def anchorOf : List Char → Anchor
  | '/' :: '/' :: '/' :: _ => .root
  | '/' :: '/' :: _ => .doubleRoot
  | '/' :: _ => .root
  | _ => .relative

def ofText (text : String) : Path :=
  ⟨anchorOf text.toList, components text.toList⟩

def text (p : Path) : String :=
  if p.anchor = .relative && p.parts.isEmpty then "."
  else p.anchor.text ++ "/".intercalate p.parts

def join (base p : Path) : Path :=
  if p.anchor = .relative then ⟨base.anchor, base.parts ++ p.parts⟩ else p

def child (base : Path) (name : String) : Path :=
  ⟨base.anchor, base.parts ++ [name]⟩

def parent (p : Path) : Path :=
  ⟨p.anchor, p.parts.dropLast⟩

def name (p : Path) : String :=
  p.parts.getLastD ""

/- The last component up to its last dot. A dot at either end does not count. -/
def stem (p : Path) : String :=
  let reversed := p.name.toList.reverse
  let suffix := reversed.takeWhile (· != '.')
  let before := reversed.drop (suffix.length + 1)
  if suffix.isEmpty || before.isEmpty then p.name else String.ofList before.reverse

def resolveParts (base : List String) (parts : List String) : List String :=
  parts.foldl (fun done part => if part = ".." then done.dropLast else done ++ [part]) base

def absolute (workingDirectory : List String) (p : Path) : Path :=
  ⟨.root, resolveParts (if p.anchor = .relative then workingDirectory else []) p.parts⟩

theorem stemChild (p q : Path) (name : String) : (p.child name).stem = (q.child name).stem := by
  simp [stem, Path.name, child]

theorem anchorPlain {text : List Char} (plain : '/' ∉ text) : anchorOf text = .relative := by
  unfold anchorOf
  split <;> simp_all

theorem componentsPlain {text : List Char} (plain : '/' ∉ text) (long : 1 < text.length) :
    components text = [String.ofList text] := by
  have clean : ∀ c ∈ text, (c == '/') = false := by
    intro c inside
    rw [beq_eq_false_iff_ne]
    rintro rfl
    exact plain inside
  have kept : (!(text.isEmpty || text == ['.'])) = true := by
    match text, long with
    | first :: second :: rest, _ => simp
  rw [components, Text.splitClean clean, List.filter_cons, if_pos kept]
  rfl

end Path
end UtilityLayout
