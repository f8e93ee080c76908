import PluginDiscovery.Engine.Module

/-!
# Modules that are shared libraries

The loader of shared libraries. It leaves the opening to the dynamic loader of the platform, which is
no part of the program: what it takes for a library, which other libraries it opens with one and
what it says of a file that it refuses are its own affair, and no more is known of it here than that
it answers.

* `DynamicLoader`: what the platform answers;
* `Native.loader`: the loader that makes modules of its libraries.
-/

namespace PluginDiscovery

/-- The dynamic loader of a platform: the library it opens at a path, or what it says if it opens
    none. Its answer is assumed to depend on the files and the path alone. -/
structure DynamicLoader where
  opens : FileSystem → Path → Except String Library

namespace Native

/-- The module of the library that the platform opens at a path. -/
def load (platform : DynamicLoader) (fs : FileSystem) (path : Path) : Except String Module :=
  (platform.opens fs path).map (Module.ofLibrary path)

/-- The module of a library has the path it was opened from. -/
theorem path_of_load {platform : DynamicLoader} {fs : FileSystem} {p : Path} {m : Module}
    (h : load platform fs p = .ok m) : m.path = p := by
  unfold load at h
  cases opened : platform.opens fs p with
  | error reason =>
    rw [opened] at h
    cases h
  | ok library =>
    rw [opened] at h
    cases h
    rfl

/-- The loader of shared libraries. It logs what it opens. -/
def loader (platform : DynamicLoader) : Loader :=
  ⟨load platform, false, true, path_of_load⟩

end Native

end PluginDiscovery
