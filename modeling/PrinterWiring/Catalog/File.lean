import PrinterWiring.Catalog.Basic
import PrinterWiring.Json.Reader

/-!
# Catalog files

A catalog file is a JSON object with a version and a list of board entries. Ports stand under the name
of their category; what an entry leaves out is empty.
-/

namespace PrinterWiring

/-- The pins and names of a motor port. -/
def MotorEntry.fields : RecordDecoder MotorEntry :=
  MotorEntry.mk <$> .required "id" Decode.text <*> .optional "label" Decode.text <*> PinSet.motorFields

def SimpleEntry.fields : RecordDecoder SimpleEntry :=
  SimpleEntry.mk <$> .required "id" Decode.text <*> .optional "label" Decode.text <*> .required "pin" Decode.text

def ProbeEntry.fields : RecordDecoder ProbeEntry :=
  ProbeEntry.mk <$> .required "id" Decode.text <*> .optional "label" Decode.text
    <*> .required "signal" Decode.text <*> .optional "servo" Decode.text

/-- The ports of an entry. -/
def PortEntries.fields : RecordDecoder PortEntries :=
  let simple (name : String) : RecordDecoder (List SimpleEntry) :=
    .withDefault name (Decode.list SimpleEntry.fields.decode) []
  PortEntries.mk <$> .withDefault "motor" (Decode.list MotorEntry.fields.decode) []
    <*> simple "heater" <*> simple "thermistor" <*> simple "fan" <*> simple "endstop"
    <*> .withDefault "probe" (Decode.list ProbeEntry.fields.decode) []
    <*> simple "misc"

/-- The entry without ports. -/
def PortEntries.none : PortEntries := ⟨[], [], [], [], [], [], []⟩

def BoardEntry.fields : RecordDecoder BoardEntry :=
  BoardEntry.mk <$> .required "id" Decode.text <*> .required "name" Decode.text
    <*> .required "manufacturer" Decode.text <*> .required "role" Role.decoder
    <*> .withDefault "mcu" Decode.text "" <*> .withDefault "ports" PortEntries.fields.decode PortEntries.none

/-- A catalog file. -/
structure CatalogFile where
  version : String
  boards : List BoardEntry

def CatalogFile.fields : RecordDecoder CatalogFile :=
  CatalogFile.mk <$> .required "version" Decode.text <*> .required "boards" (Decode.list BoardEntry.fields.decode)

/-- Reads a catalog file. -/
def CatalogFile.read (s : String) : Except CatalogError CatalogFile :=
  (decodeText fields.decode s).mapError fun _ => .notCatalog

namespace Catalog

/-- Merges the boards of a catalog file into a catalog. -/
def mergeText (c : Catalog) (s : String) : Except CatalogError Catalog := do
  c.merge (← CatalogFile.read s).boards

/-- The catalog of a catalog file. -/
def ofText (s : String) : Except CatalogError Catalog := empty.mergeText s

end Catalog

end PrinterWiring
