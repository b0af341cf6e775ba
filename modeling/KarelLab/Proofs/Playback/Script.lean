import KarelLab.Playback.Script
import KarelLab.Proofs.Playback.Alone

namespace KarelLab.Playback

namespace Script

end Script

namespace Config

open Script

section NoAbsorption

variable {ε : Type} {e : Environment ε}

end NoAbsorption

variable {c : Config Script}

end Config

namespace Script

variable {p q r : Player} {s : Script} {R : Recording}

end Script

end KarelLab.Playback
