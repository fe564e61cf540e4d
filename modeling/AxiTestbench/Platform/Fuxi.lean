import AxiTestbench.Platform.Rearrange

/-!
# The platform of the Fuxi example

`PlatformDefinition::defaults` of `fuxi_platform.cpp` adds a CLINT and a PLIC to the default
platform, and `SidebandBinding` looks up the signals that the processor is driven with.
-/

namespace AxiTestbench

open Lib Outcome

variable {files : HostFiles} {map : DefaultMap}

namespace Created

variable {config : DeviceConfig} {object : DeviceObject}

end Created

end AxiTestbench
