import KarelLab.Execution.Session
import KarelLab.Program.Review

namespace KarelLab

namespace Text

end Text

namespace Program

open Text

end Program

namespace Execution

open Text

end Execution

end KarelLab
