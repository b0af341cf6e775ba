import KarelLab.CommandLine.Run
import KarelLab.Proofs.Playback.Script

namespace KarelLab.CommandLine

open Playback

variable {o : Options} {p q r : Player} {w : World} {R : Recording} {lines : Nat}
  {more trace : List String}

end KarelLab.CommandLine
