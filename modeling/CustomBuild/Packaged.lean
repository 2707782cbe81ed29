import CustomBuild.Packaged.Arrays
import CustomBuild.Packaged.Chaining
import CustomBuild.Packaged.Collections
import CustomBuild.Packaged.Functions
import CustomBuild.Packaged.Internal
import CustomBuild.Packaged.Manifest
import CustomBuild.Packaged.Objects
import CustomBuild.Packaged.Utilities
import CustomBuild.Registry.Manifest

/-!
# The packaged registry

The library that comes with the builder: the texts of its manifest and of its fragment files, and
the registry that is loaded from them.
-/

namespace CustomBuild.Packaged

/-- The packaged files by name. -/
def files : List (String × String) :=
  [("manifest.json", manifestText), ("internal.js", internalText), ("arrays.js", arraysText),
   ("chaining.js", chainingText), ("collections.js", collectionsText),
   ("functions.js", functionsText), ("objects.js", objectsText), ("utilities.js", utilitiesText)]

/-- The name of the directory that has the packaged files. -/
def directoryName : String := "fragments"

/-- A tree with the packaged files in one directory. -/
def tree : FileTree :=
  files.foldl (fun t file => t.putDeep [directoryName, file.1] (.file file.2)) {}

/-- What loading the packaged files gives. -/
def loaded : Except LoadError RegistryRecord :=
  Registry.loadRecord tree [] (Path.ofText directoryName)

/-- **The packaged registry.** -/
def registry : Registry :=
  (loaded.map RegistryRecord.registry).toOption.getD Registry.empty

end CustomBuild.Packaged
