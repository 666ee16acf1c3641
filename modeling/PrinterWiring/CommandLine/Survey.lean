import PrinterWiring.CommandLine.Run

/-!
# Surveying

Which paths a command looks at, as far as the files tell that were found so far. The preferences name a
catalog, so that the paths are known in two rounds: one without any file, and one with what the first found.
-/

namespace PrinterWiring.CommandLine

/-- The preferences at a path and the catalog that they name. -/
def preferencesPaths (h : Host) (path : String) : List String :=
  path :: (((h.files.text? path).bind Preferences.read?).bind (·.catalog)).toList

namespace Sources

/-- The paths that loading looks at. -/
def paths (s : Sources) (h : Host) : List String :=
  preferencesPaths h (h.preferencesPath s.preferences) ++ s.catalog.toList

end Sources

namespace SessionSource

/-- The paths that opening a session looks at. -/
def paths (s : SessionSource) (h : Host) : List String := s.path :: s.sources.paths h

end SessionSource

/-- The paths that a command looks at. A catalog that is going to be preferred has to be there. -/
def Command.paths (h : Host) : Command → List String
  | listBoards _ _ sources => sources.paths h
  | showBoard _ _ _ sources => sources.paths h
  | listFunctions _ _ => []
  | createSession _ _ _ source => source.paths h
  | showSession _ source => source.paths h
  | changeSession _ source => source.paths h
  | validate _ _ source => source.paths h
  | generate _ _ source => source.paths h
  | showPreferences _ path => preferencesPaths h (h.preferencesPath path)
  | setPreference _ v path => Text.trim v :: preferencesPaths h (h.preferencesPath path)

end PrinterWiring.CommandLine
