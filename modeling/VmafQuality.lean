import VmafQuality.Python
import VmafQuality.Executor
import VmafQuality.Legacy.Score
import VmafQuality.Legacy.Run
import VmafQuality.Vmaf.PostProcess
import VmafQuality.Vmaf.Runner
import VmafQuality.Psnr
import VmafQuality.Vmafossexec
import VmafQuality.Passthrough
import VmafQuality.Dispatch
