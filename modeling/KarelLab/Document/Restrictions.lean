import KarelLab.Document.Issue
import KarelLab.Program.Restrictions

namespace KarelLab.Document

open Checked

/-- Restrictions. A list that is null or missing restricts nothing. -/
def restrictions (medium : Medium) (j : Json) : Checked Program.Restrictions := do
  let fs ← fields medium "AllowedFeatures" j
  (both (fieldOr fs "karel_commands" none (optional (list medium text)))
    (fieldOr fs "python_features" none (optional (list medium text)))).map
    fun (commands, features) => ⟨commands, features⟩

end KarelLab.Document
