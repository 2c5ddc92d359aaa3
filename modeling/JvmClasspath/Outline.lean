import JvmClasspath.Markup
import JvmClasspath.Package.Query
import JvmClasspath.Text.Width

/-!
# Outlines

An outline shows a package as a tree: its packages, down to some depth, and then its classes. At the
depth where it ends, the packages are only counted.
-/

namespace JvmClasspath

/-- A line of an outline. -/
inductive Label where
  | package (name : String) (merged : Bool)
  | hidden (packages : Nat)
  | rep (name : String) (compiled source : Bool)
deriving DecidableEq, Repr

namespace Label

/-- A label with its styles. -/
def markup : Label → String
  | package name merged =>
    "📦 [bold]" ++ Markup.escape name ++ "[/bold]" ++ if merged then " [dim](merged)[/dim]" else ""
  | hidden packages => s!"[dim]… {packages} packages[/dim]"
  | rep name compiled source =>
    let kinds := (if compiled then ["class"] else []) ++ if source then ["source"] else []
    Markup.escape name ++ " [dim](" ++ String.intercalate "+" kinds ++ ")[/dim]"

/-- The lines of a label without its styles. -/
def lines (label : Label) : List String :=
  (Text.split '\n' (Markup.shown label.markup)).map Text.withoutTabs

end Label

inductive Outline where
  | node (label : Label) (children : List Outline)

namespace Outline

def ofClass (rep : ClassRep) : Outline :=
  node (.rep rep.name rep.binary.isSome rep.source.isSome) []

/-- What an outline shows under a package, down to a depth. -/
def under (files : FileSystem) : (depth : Nat) → Package → Query (List Outline)
  | 0, package => do
    let packages ← package.packages files
    let hidden := if packages.isEmpty then [] else [node (.hidden packages.length) []]
    return hidden ++ (← package.classes files).map ofClass
  | depth + 1, package => do
    let branches ← (← package.packages files).mapM fun inner => do
      return node (.package inner.name inner.isMerged) (← under files depth inner)
    return branches ++ (← package.classes files).map ofClass

/-- The outline of a package. A depth below zero is as zero. -/
def ofPackage (files : FileSystem) (label : String) (package : Package) (depth : Int) :
    Query Outline :=
  return node (.package label package.isMerged) (← under files depth.toNat package)

/-- Lines with one text in front of the first and another in front of the others. -/
def led (first others : String) : List String → List String
  | [] => []
  | line :: rest => (first ++ line) :: rest.map (others ++ ·)

mutual

/-- The lines of an outline, each child led by guides from its parent. -/
def lines : Outline → List String
  | node label children => label.lines ++ childLines children

def childLines : List Outline → List String
  | [] => []
  | [child] => led "└── " "    " child.lines
  | child :: next :: rest => led "├── " "│   " child.lines ++ childLines (next :: rest)

end

end Outline

end JvmClasspath
