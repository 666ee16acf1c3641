/-!
# Configuration files

A configuration file is a list of lines: comments, section headers, and entries of the section above
them. A blank line stands in front of each header.
-/

namespace PrinterWiring

/-- A line of a configuration file. -/
inductive ConfigLine where
  | comment (text : String)
  | header (name : String)
  | entry (key value : String)
deriving DecidableEq

/-- The text of a line, with the blank line in front of a header. -/
def ConfigLine.toText : ConfigLine → String
  | comment text => "# " ++ text ++ "\n"
  | header name => "\n[" ++ name ++ "]\n"
  | entry key value => key ++ ": " ++ value ++ "\n"

/-- The text of the lines of a file. -/
def configText (lines : List ConfigLine) : String := String.join (lines.map ConfigLine.toText)

/-- The configuration files of a printer. -/
inductive ConfigFile where
  /-- The main file. -/
  | printer
  /-- The file of what is on the toolboard; the main file includes it. -/
  | toolboard
deriving DecidableEq

def ConfigFile.name : ConfigFile → String
  | printer => "printer.cfg"
  | toolboard => "toolboard.cfg"

/-- Lines that belong together, and the file that they stand in. -/
structure ConfigBlock where
  file : ConfigFile
  lines : List ConfigLine
deriving DecidableEq

/-- The lines of a file, from a list of blocks. -/
def linesOf (file : ConfigFile) (blocks : List ConfigBlock) : List ConfigLine :=
  (blocks.filter (·.file = file)).flatMap (·.lines)

end PrinterWiring
