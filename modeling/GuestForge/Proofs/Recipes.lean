import GuestForge.Bake
import GuestForge.Proofs.PublishDirectories
set_option autoImplicit false

/-!
# Builders that follow a recipe

The plainest builders do the same to files each time: they make directories and write fixed bytes, and report fixed
guests. They touch nothing but these files and the directories on the way there.
-/
namespace GuestForge
open HostM

inductive BuildStep where
  | directory (path : Path)
  | file (path : Path) (bytes : List UInt8)

namespace BuildStep

def act : BuildStep → HostM Unit
  | directory path => makeDirectories path
  | file path bytes => writeFile path bytes

def Touches (current : Location) : BuildStep → Location → Prop
  | directory path, location => FileTree.Passes current path location
  | file path _, location => FileTree.spot current path = location

end BuildStep

structure Recipe where
  steps : List BuildStep
  guests : List BuiltGuest

namespace Recipe

def follow (recipe : Recipe) : HostM (List BuiltGuest) := do
  recipe.steps.forM BuildStep.act
  pure recipe.guests

theorem keeps_follow {recipe : Recipe} {region : Location → Prop}
    (outside : ∀ step ∈ recipe.steps, ∀ current location, step.Touches current location → ¬ region location) :
    Keeps (Host.Spares region) recipe.follow := by
  refine Keeps.bind spares_trans (Keeps.forM spares_trans spares_refl fun step hstep => ?_)
    fun _ => Keeps.pure spares_refl _
  have hstepOutside := outside step hstep
  cases step with
  | directory path => exact spares_makeDirectories hstepOutside
  | file path bytes => exact spares_writeFile bytes fun current => hstepOutside current _ rfl

end Recipe

namespace Small

def name (text : String) (valid : text ≠ "" ∧ text ≠ "." ∧ '/' ∉ text.toList) : Name := ⟨text, valid⟩

def manifestName : Name := name "Cargo.toml" (by decide)

def outputName : Name := name "t" (by decide)

def package : Package :=
  ⟨"p", "p", "0.0.0", ⟨.root, [name "w" (by decide), manifestName]⟩, some [("risc0", .null)],
    [⟨"b", ["bin"], none⟩]⟩

def workspace : Workspace :=
  ⟨[package], ["p"], none, ⟨.root, [outputName]⟩, ⟨.root, [name "w" (by decide)]⟩⟩

def binary : Path := ⟨.root, [outputName, name "b" (by decide)]⟩

def guest : BuiltGuest := ⟨binary, ⟨List.replicate 32 1, rfl⟩, ⟨.kernel, ⟨List.replicate 32 2, rfl⟩⟩⟩

def recipe : Recipe := ⟨[.directory binary.parent, .file binary [7]], [guest]⟩

theorem isPrefix_of_step {step : BuildStep} (hstep : step ∈ recipe.steps) {current location : Location}
    (h : step.Touches current location) : location <+: binary.location := by
  rcases List.mem_cons.1 hstep with rfl | hstep
  · exact (FileTree.Passes.isPrefix (by decide +kernel) h).trans (by decide +kernel)
  · obtain rfl := List.mem_singleton.1 hstep
    obtain rfl : FileTree.spot current binary = location := h
    have hspot : FileTree.spot current binary = binary.location := FileTree.spot_plain (by decide +kernel) current
    exact hspot ▸ List.prefix_rfl

def builder : Builder := fun _ _ _ => recipe.follow

def result : BakeResult := ⟨⟨.root, [outputName, name "guest" (by decide)]⟩, ["p"],
  [⟨"p", ⟨.root, [name "w" (by decide), elfsName, name "b.elf" (by decide)]⟩, guest.imageId,
    ⟨.root, [name "w" (by decide), elfsName, name "b.kid" (by decide)]⟩,
    some ⟨.root, [name "w" (by decide), elfsName, name "b.iid" (by decide)]⟩⟩]⟩

def secondGuest : BuiltGuest := { guest with path := ⟨.root, [outputName, name "c" (by decide)]⟩ }

def other : Package := { package with id := "q", name := "q", manifest := ⟨.root, [name "x" (by decide), manifestName]⟩ }

/-- Two packages, of which the first has two guests, and the binary of the second takes the place of the first. -/
def pair : Workspace := { workspace with packages := [package, other], members := ["p", "q"] }

def pairRecipe (package : Package) : Recipe :=
  if package.name = "p" then
    ⟨[.directory binary.parent, .file binary [7], .file secondGuest.path [8]], [guest, secondGuest]⟩
  else ⟨[.directory binary.parent, .file binary [9]], [guest]⟩

def pairBuilder : Builder := fun package _ _ => (pairRecipe package).follow

def pairResult : BakeResult :=
  ⟨result.targetDirectory, ["p", "q"],
    [.of package guest, .of package secondGuest, .of other guest]⟩

theorem mem_pair {member : Package} (h : member ∈ pair.guests {}) : member = package ∨ member = other := by
  have hlist : member ∈ [package, other] := h
  simpa using hlist

theorem isPrefix_of_pairStep {member : Package} {step : BuildStep} (hstep : step ∈ (pairRecipe member).steps)
    {current location : Location} (h : step.Touches current location) : ∃ last, location <+: ["t", last] := by
  have hspot : ∀ path : Path, path.Plain → FileTree.spot current path = path.location :=
    fun path hplain => FileTree.spot_plain hplain current
  have hsteps : step ∈ [.directory binary.parent, .file binary [7], .file secondGuest.path [8], .file binary [9]] := by
    unfold pairRecipe at hstep
    split at hstep <;> simp at hstep ⊢ <;> tauto
  simp only [List.mem_cons, List.not_mem_nil, or_false] at hsteps
  rcases hsteps with rfl | rfl | rfl | rfl
  · exact ⟨"b", (FileTree.Passes.isPrefix (by decide +kernel) h).trans (by decide +kernel)⟩
  · exact ⟨"b", by rw [← show _ = location from h, hspot _ (by decide +kernel)]; decide +kernel⟩
  · exact ⟨"c", by rw [← show _ = location from h, hspot _ (by decide +kernel)]; decide +kernel⟩
  · exact ⟨"b", by rw [← show _ = location from h, hspot _ (by decide +kernel)]; decide +kernel⟩

/-- Three packages, of which the builder below refuses the second. -/
def trio : Workspace :=
  { workspace with
    packages := [{ package with id := "a", name := "a" }, { package with id := "b", name := "b" },
      { package with id := "c", name := "c" }]
    members := ["a", "b", "c"] }

def refusal : Fault := .bake (.general "refused" "no")

def refusing : Builder := fun package _ _ => if package.name = "b" then fail refusal else pure []

def host : Host where
  tree := ((FileTree.empty.set ["w"] .directory).set ["w", "elfs"] .directory).set ["w", "elfs", "b.uid"] (.file [0])
  current := []
  clock := ""
  outcomes := []

theorem linkFree : host.tree.LinkFree := by
  intro location target
  simp only [host, FileTree.get?_set, FileTree.get?_empty]
  repeat' split
  all_goals simp

def fresh : Host := { host with tree := FileTree.empty.set ["w"] .directory }

theorem linkFree_fresh : fresh.tree.LinkFree := by
  intro location target
  simp only [fresh, FileTree.get?_set, FileTree.get?_empty]
  split <;> simp

theorem eq_package {other : Package} (h : other ∈ workspace.guests {}) : other = package := List.mem_singleton.1 h

end Small

end GuestForge
