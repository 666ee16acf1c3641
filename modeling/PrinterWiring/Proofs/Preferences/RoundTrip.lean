import PrinterWiring.Preferences.File
import PrinterWiring.Proofs.Toml.Lines

/-!
# Preferences that are written and read

Whatever texts preferences hold, the file that they are written to reads as the same preferences (`read?_toText`).
-/

namespace PrinterWiring.Preferences

open Toml (IsName entryLine headerLine tokens readLine)

/-- The names that preferences are written under. -/
def names : List String := ["paths", "catalog", "output_dir", "render", "mode"]

private theorem isName_of_mem {name : String} (listed : name ∈ names) : IsName name := by
  have all : names.all (Toml.isName ·.toList) = true := by decide +kernel
  exact Toml.isName_iff.1 (List.all_eq_true.1 all name listed)

/-- The lines behind the catalog. -/
def tailText (p : Preferences) : List Char :=
  entryLine "output_dir" p.outputDirectory ('\n' :: headerLine "render" (entryLine "mode" p.mode.name []))

private theorem toList_toText (p : Preferences) :
    p.toText.toList = headerLine "paths" (p.catalog.elim p.tailText (entryLine "catalog" · p.tailText)) := by
  cases held : p.catalog <;> simp [toText, tailText, entryLine, headerLine, Text.unlines, String.join, held]

private theorem readLine_tailText (p : Preferences) {fields : List (String × Toml)}
    (unset : fields.lookup "output_dir" = none) :
    readLine (.table .opened ([] ++ [("paths", .table .opened fields)])) ["paths"] (tokens false p.tailText) =
      some (.table .opened [("paths", .table .opened (fields ++ [("output_dir", .text p.outputDirectory)])),
        ("render", .table .opened [("mode", .text p.mode.name)])]) := by
  have directoryName : IsName "output_dir" := isName_of_mem (by decide)
  have renderName : IsName "render" := isName_of_mem (by decide)
  have modeName : IsName "mode" := isName_of_mem (by decide)
  obtain ⟨w, directory, directory_line⟩ := Toml.tokens_entry directoryName p.outputDirectory false
    ('\n' :: headerLine "render" (entryLine "mode" p.mode.name []))
  obtain ⟨u, mode, mode_line⟩ := Toml.tokens_entry modeName p.mode.name false []
  have nothing : tokens false [] = [] := by rw [tokens]
  rw [tailText, directory_line, Toml.tokens_mark rfl, Toml.tokens_header renderName, mode_line, nothing,
    Toml.readLine_entry directoryName directory, Toml.finish_last _ rfl unset, Option.bind_some, readLine,
    Toml.readLine_header renderName, Toml.openTable_new rfl, Option.bind_some, Toml.readLine_entry modeName mode,
    Toml.finish_last _ rfl rfl, Option.bind_some, readLine]
  rfl

/-- The fields of the table of paths. -/
def pathFields (p : Preferences) : List (String × Toml) :=
  p.catalog.toList.map (fun path => ("catalog", .text path)) ++ [("output_dir", .text p.outputDirectory)]

/-- The file of preferences is read as its two tables. -/
theorem toml_read?_toText (p : Preferences) :
    Toml.read? p.toText =
      some (.table .opened [("paths", .table .opened p.pathFields),
        ("render", .table .opened [("mode", .text p.mode.name)])]) := by
  have first : Toml.documentTokens p.toText = tokens false p.toText.toList := by
    rw [Toml.documentTokens, toList_toText]
    rfl
  have pathsName : IsName "paths" := isName_of_mem (by decide)
  rw [Toml.read?, first, toList_toText, Toml.tokens_header pathsName, Toml.readLine_header pathsName,
    Toml.openTable_new rfl, Option.bind_some, pathFields]
  cases p.catalog with
  | none => exact readLine_tailText p rfl
  | some path =>
    have catalogName : IsName "catalog" := isName_of_mem (by decide)
    obtain ⟨w, catalog, catalog_line⟩ := Toml.tokens_entry catalogName path false p.tailText
    rw [Option.elim_some, catalog_line, Toml.readLine_entry catalogName catalog, Toml.finish_last _ rfl rfl,
      Option.bind_some]
    exact readLine_tailText p rfl

private theorem ofToml?_toText (p : Preferences) :
    ofToml? (.table .opened [("paths", .table .opened p.pathFields),
      ("render", .table .opened [("mode", .text p.mode.name)])]) = some p := by
  obtain ⟨catalog, directory, mode⟩ := p
  cases catalog <;> cases mode <;> rfl

/-- What preferences are written to reads as the same preferences. -/
theorem read?_toText (p : Preferences) : read? p.toText = some p := by
  rw [read?, toml_read?_toText, Option.bind_some, ofToml?_toText]

end PrinterWiring.Preferences
