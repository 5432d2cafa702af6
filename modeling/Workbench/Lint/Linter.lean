import Workbench.Text.Description
import Workbench.Text.Letters

namespace Workbench
namespace Lint

/-!
# Linters

A linter that is active somewhere, and the configuration files it reads.
-/

structure Linter where
  name : String
  configFiles : List String
  deriving DecidableEq, Repr

namespace Linter

/-- Whether a file of this name is one of the linter's configuration files.  Case does not matter
for the letters of ASCII. -/
def watches (linter : Linter) (baseName : String) : Bool :=
  linter.configFiles.any fun file => Text.sameAscii file baseName

instance : Text.Describe Linter where
  describe linter := Text.describeRecord "LinterInfo"
    [("name", Text.describe linter.name), ("config_file_names", Text.describe linter.configFiles)]

end Linter
end Lint
end Workbench
