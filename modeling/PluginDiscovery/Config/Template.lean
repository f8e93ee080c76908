/-!
# A configuration file to start from

The file that is written for a user who asks for one: every setting with its usual value, and a
comment on what it does.
-/

namespace PluginDiscovery.Template

/-- The lines of the file. -/
def lines : List String :=
  ["# plugscan default configuration.",
   "# Environment variables override any key: PLUGSCAN__PLUGINS__DIRECTORY=/opt/plugins",
   "",
   "[plugins]",
   "# Primary plugin directory. Leave empty to disable discovery.",
   "directory = \"./plugins\"",
   "# Scan the primary directory and its subdirectories as a build tree.",
   "build_layout = false",
   "# Nested build-output directory probed inside each subdirectory.",
   "build_output_subdir = \".libs\"",
   "# Version qualifier for the system and personal directories.",
   "# Defaults to the running plugscan <major>.<minor>.",
   "# version = \"0.1\"",
   "# Per-user plugin directory. Defaults to <data dir>/plugscan/plugins/<version>.",
   "# personal_directory = \"/home/me/.local/share/plugscan/plugins/0.1\"",
   "# File names that are never loaded.",
   "exclude = []",
   "# Report load failures and rejected modules.",
   "report_load_failures = true",
   "",
   "[[plugins.types]]",
   "name = \"dissector\"",
   "symbol = \"plugin_register\"",
   "",
   "[[plugins.types]]",
   "name = \"file type\"",
   "symbol = \"register_wtap_module\"",
   "",
   "[[plugins.types]]",
   "name = \"codec\"",
   "symbol = \"register_codec\"",
   "",
   "[logging]",
   "# Log level filter, overridden by RUST_LOG.",
   "level = \"info\"",
   "# Log format: \"pretty\" or \"json\".",
   "format = \"pretty\""]

/-- The text of the file; every line ends in a line feed. -/
def text : String :=
  String.join (lines.map fun line => line ++ "\n")

end PluginDiscovery.Template
