import ThrowawayServer.Json.Forms
import ThrowawayServer.Run.Config

/-!
# The JSON form of a configuration

All settings by name, with null for what is not set. The platform is left out if no part of it is
replaced.
-/

set_option autoImplicit false

namespace ThrowawayServer.RunConfig

/-- The settings of a configuration by name. -/
def toJson (config : RunConfig) : Json :=
  .object ([("version", .text config.version.canonical)] ++
    (config.platform.map fun o => ("platform", o.toJson)).toList ++
    [("command", .text config.program.baseName), ("bind_ip", .text config.bindIp.toText),
      ("port", .whole config.port.toNat), ("db_path", .ofOption config.dbPath),
      ("extra_args", .array (config.extraArgs.map .text)),
      ("env", .object (config.env.map fun (name, value) => (name, .text value))),
      ("startup_timeout_ms", .whole config.startupTimeoutMs.toNat),
      ("shutdown_step_timeout_ms", .whole config.stepTimeoutMs.toNat),
      ("download_base_url", .text config.baseUrl),
      ("artifact_dir", .ofOption config.artifactDir)])

end ThrowawayServer.RunConfig
