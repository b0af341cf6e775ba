import KarelLab.Proofs.CommandLine.Proceed
import KarelLab.Proofs.Playback.Timely
import KarelLab.Proofs.Service.Tests

namespace KarelLab.Service

open Document Document.Checked Playback

end KarelLab.Service
